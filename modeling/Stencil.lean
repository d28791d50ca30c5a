import Stencil.Config.ListField
import Stencil.Config.Settings
import Stencil.Data.Reader
import Stencil.Embed.Registry
import Stencil.Environment.Cache
import Stencil.Environment.Loader
import Stencil.Environment.Options
import Stencil.Inspect.Data
import Stencil.Inspect.Error
import Stencil.Inspect.Linked
import Stencil.Node.Dump
import Stencil.Node.References
import Stencil.Render.Machine
import Stencil.Tree.Parser
import Stencil.Workspace
import Stencil.Proofs.Embed.Closed
import Stencil.Proofs.Embed.Isolation
import Stencil.Proofs.Embed.Registration
import Stencil.Proofs.Embed.Visits
import Stencil.Proofs.Inspect.Reachable
import Stencil.Proofs.Inspect.Targets
import Stencil.Proofs.Render.Growth
import Stencil.Proofs.Simulation.Stored
import Stencil.Proofs.Embed.Apart
import Stencil.Proofs.Embed.Eviction
import Stencil.Proofs.Embed.Identity
import Stencil.Proofs.Embed.Recompilation
import Stencil.Proofs.Embed.Inclusion
import Stencil.Proofs.Embed.Replacement
import Stencil.Proofs.Simulation.Extracted
import Stencil.Proofs.Inspect.Ascent
import Stencil.Proofs.Inspect.Lineage
import Stencil.Proofs.Inspect.Agreement
import Stencil.Proofs.Inspect.Independent
import Stencil.Proofs.Inspect.LostParent
import Stencil.Proofs.Inspect.Visited
import Stencil.Proofs.Embed.Extraction
import Stencil.Proofs.Config.Settings
import Stencil.Proofs.Node.Postorder
import Stencil.Proofs.Embed.Recency
