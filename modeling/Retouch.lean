import Retouch.Main
import Retouch.Proofs.Attribution.Calls
import Retouch.Proofs.Classpath.Resolution
import Retouch.Proofs.Classpath.Subtyping
import Retouch.Proofs.Contract
import Retouch.Proofs.Import.Closure
import Retouch.Proofs.Import.Named
import Retouch.Proofs.Import.Sorting
import Retouch.Proofs.Import.Sweeping
import Retouch.Proofs.Import.Visible
import Retouch.Proofs.Parser.Grouping
import Retouch.Proofs.Parser.Precedence
import Retouch.Proofs.Parser.Progress
import Retouch.Proofs.Parser.Safety
import Retouch.Proofs.Parser.Termination
import Retouch.Proofs.Pattern.Meaning
import Retouch.Proofs.Pattern.Written
import Retouch.Proofs.Recipe.Building
import Retouch.Proofs.RoundTrip
import Retouch.Proofs.Rule.AssertThat
import Retouch.Proofs.Rule.AssertThatImports
import Retouch.Proofs.Rule.Bundled
import Retouch.Proofs.Rule.ChainImports
import Retouch.Proofs.Rule.EmptyLiterals
import Retouch.Proofs.Rule.EmptyString
import Retouch.Proofs.Rule.EmptyStringFrame
import Retouch.Proofs.Rule.SecondPass
import Retouch.Proofs.Search.Calls
import Retouch.Proofs.Search.Types
import Retouch.Proofs.Session.Classpaths
import Retouch.Proofs.Template.Arguments
import Retouch.Proofs.Template.Cache
import Retouch.Proofs.Token.Gaps
import Retouch.Proofs.Trivia
