import SceneGraph.Component.Decode
import SceneGraph.Geometry.Matrix
import SceneGraph.Main
import SceneGraph.Proofs.CommandLine.Copies
import SceneGraph.Proofs.Component.TypeId
import SceneGraph.Proofs.Scene.Accounting
import SceneGraph.Proofs.Scene.Atomicity
import SceneGraph.Proofs.Scene.Chain
import SceneGraph.Proofs.Scene.Construction
import SceneGraph.Proofs.Scene.Defaults
import SceneGraph.Proofs.Scene.Inclusion
import SceneGraph.Proofs.Scene.Inlining
import SceneGraph.Proofs.Scene.Labels
import SceneGraph.Proofs.Scene.Naming
import SceneGraph.Proofs.Scene.Nesting
import SceneGraph.Proofs.Scene.Operations
import SceneGraph.Proofs.Scene.Pruning
import SceneGraph.Proofs.Scene.Quoting
import SceneGraph.Proofs.Scene.Rearrangement
import SceneGraph.Proofs.Scene.Session
import SceneGraph.Proofs.Scene.Transforms
import SceneGraph.Proofs.Tree.Conversion
import SceneGraph.Proofs.World.Listing
import SceneGraph.Proofs.World.Stamping
