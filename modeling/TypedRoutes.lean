import TypedRoutes.Main
import TypedRoutes.Proofs.EmittedLiterals
import TypedRoutes.Proofs.IncrementalGeneration
import TypedRoutes.Proofs.ValidationRules
import TypedRoutes.Proofs.RouteAgreement
import TypedRoutes.Proofs.ConcretePaths
import TypedRoutes.Proofs.IndependentDeclarations
import TypedRoutes.Proofs.PassEnding
import TypedRoutes.Proofs.CommandAgreement
import TypedRoutes.Proofs.BoundNames
import TypedRoutes.Proofs.EncodeCalls
import TypedRoutes.Proofs.UnseenEdits
import TypedRoutes.Proofs.FieldCoverage
import TypedRoutes.Proofs.LineStructure
import TypedRoutes.Proofs.SnapshotObservation
import TypedRoutes.Proofs.DeclarationLookup
import TypedRoutes.Proofs.RefusedDeclarations
import TypedRoutes.Proofs.ConstantCollisions
import TypedRoutes.Proofs.ConditionalWrites
import TypedRoutes.Proofs.RouteReuse
import TypedRoutes.Proofs.DeclaredTypes
import TypedRoutes.Proofs.NullableMarks
import TypedRoutes.Proofs.SourceFiles
import TypedRoutes.Proofs.RepeatedNames
import TypedRoutes.Proofs.FileSections
import TypedRoutes.Proofs.EncodedText
import TypedRoutes.Proofs.BufferedLayout
