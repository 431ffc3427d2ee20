import Nvfm.Session.Recovery
import Nvfm.Session.Symbols
import Nvfm.Session.Connections
import Nvfm.Session.Values
import Nvfm.Dl.Attribution
import Nvfm.Go.Arrays
import Nvfm.Library.StringField
import Nvfm.Library.Address
import Nvfm.Library.Slices
import Nvfm.Files.Tree
import Nvfm.Generator.Extract
import Nvfm.Generator.Coverage
import Nvfm.Generator.Grammar
import Nvfm.Generator.RoundTrip
import Nvfm.Generator.Layout
import Nvfm.Interaction.Mutex
import Nvfm.Session.Goroutines
import Nvfm.Session.Handles
import Nvfm.Session.Service
import Nvfm.Files.Frame
import Nvfm.Generator.Effects
import Nvfm.Generator.Api
import Nvfm.Bindings.Header
import Nvfm.Session.Discipline
import Nvfm.Library.Codes
import Nvfm.Session.Team
import Nvfm.Interaction.Locking
