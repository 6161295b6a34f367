import ResourceLoom.Composition.Inline
import ResourceLoom.Composition.Render
import ResourceLoom.Load
import ResourceLoom.Wire.Codec
import ResourceLoom.Wire.Composition
import ResourceLoom.Wire.Path
import ResourceLoom.Proofs.DocumentChildren
import ResourceLoom.Proofs.DocumentPaths
import ResourceLoom.Proofs.WriteFrame
import ResourceLoom.Proofs.Outcomes
import ResourceLoom.Proofs.PatchAtomicity
import ResourceLoom.Proofs.WriteSequences
import ResourceLoom.Proofs.RenderFixpoint
import ResourceLoom.Proofs.KindSoundness
import ResourceLoom.Proofs.PathForms
import ResourceLoom.Proofs.SeparateRuns
import ResourceLoom.Proofs.TemplateOperands
import ResourceLoom.Proofs.InlinedRendering
import ResourceLoom.Proofs.WireRoundTrips
import ResourceLoom.Proofs.PatchPermutations
import ResourceLoom.Proofs.RenderStages
import ResourceLoom.Proofs.ErrorPlaces
import ResourceLoom.Proofs.RepeatedPatches
import ResourceLoom.Proofs.SelectedPatches
import ResourceLoom.Proofs.ControllerConflicts
import ResourceLoom.Proofs.ChainArity
import ResourceLoom.Proofs.ArrayBounds
import ResourceLoom.Proofs.ChainComposition
import ResourceLoom.Proofs.LookupOutcomes
import ResourceLoom.Proofs.MetadataReads
import ResourceLoom.Proofs.SeparateWrites
import ResourceLoom.Proofs.MetadataFrame
import ResourceLoom.Proofs.KeptIdentity
import ResourceLoom.Proofs.OwnerReferences
import ResourceLoom.Proofs.DirectiveWidths
import ResourceLoom.Proofs.ConversionOutcomes
import ResourceLoom.Proofs.ExactProducts
import ResourceLoom.Proofs.IntegerDirectives
import ResourceLoom.Proofs.SecretConfinement
import ResourceLoom.Proofs.DetailAccumulation
import ResourceLoom.Proofs.ReadinessDecisions
import ResourceLoom.Proofs.TypedPatches
import ResourceLoom.Proofs.ReadDepths
import ResourceLoom.Proofs.FaultPositions
import ResourceLoom.Proofs.TypeLists
import ResourceLoom.Proofs.LeadingSegments
