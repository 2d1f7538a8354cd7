import Bindery.Artifact.Template
import Bindery.Conversion
import Bindery.Header.Target
import Bindery.Layout.Session
import Bindery.Proofs.Declaration.Report
import Bindery.Proofs.Declaration.Strings
import Bindery.Proofs.Naming.LongestMatch
import Bindery.Proofs.Context.Soundness
import Bindery.Proofs.Context.Traversal
import Bindery.Proofs.Context.History
import Bindery.Proofs.Context.Visits
import Bindery.Proofs.Context.ModuleSurface
import Bindery.Proofs.Context.Numbering
import Bindery.Proofs.Context.ModuleOrder
import Bindery.Proofs.Layout.Chain
import Bindery.Proofs.Layout.History
import Bindery.Proofs.Layout.Levels
import Bindery.Proofs.Layout.Completion
import Bindery.Proofs.Layout.Strokes
import Bindery.Proofs.Layout.Custody
import Bindery.Proofs.Layout.Guards
import Bindery.Proofs.Layout.Lines
import Bindery.Proofs.Layout.Spelling
import Bindery.Proofs.Layout.Width
import Bindery.Proofs.Layout.Plain
import Bindery.Proofs.Layout.Setting
import Bindery.Proofs.Layout.Disposal
import Bindery.Proofs.Layout.Course
import Bindery.Proofs.Layout.Translation
import Bindery.Proofs.Layout.Effects
import Bindery.Proofs.Layout.Inertness
import Bindery.Proofs.Layout.Freshness
import Bindery.Proofs.Layout.Restoration
import Bindery.Proofs.Layout.Pieces
import Bindery.Proofs.Layout.Extent
import Bindery.Proofs.Naming.Unbroken
import Bindery.Proofs.Pattern.Replacement
import Bindery.Proofs.Naming.Agreement
import Bindery.Proofs.Naming.References
import Bindery.Proofs.Naming.Bracing
import Bindery.Proofs.Naming.Boundaries
import Bindery.Proofs.Naming.Collision
import Bindery.Proofs.Artifact.Manifest
import Bindery.Proofs.Artifact.Rooted
import Bindery.Proofs.Header.Likeness
import Bindery.Proofs.Header.Completion
import Bindery.Proofs.Artifact.Isolation
import Bindery.Proofs.Header.Erasure
import Bindery.Proofs.Header.Reordering
import Bindery.Proofs.Context.Registration
import Bindery.Proofs.Context.Refusals
import Bindery.Proofs.Context.DepthFirst
import Bindery.Proofs.Context.Shape
import Bindery.Proofs.Context.Catalogues
import Bindery.Proofs.Artifact.Room
import Bindery.Proofs.Header.Failures
import Bindery.Proofs.Header.Umbrella
import Bindery.Proofs.Header.Clashes
import Bindery.Proofs.Header.ModuleText
import Bindery.Proofs.Header.TypesText
import Bindery.Proofs.Header.Options
