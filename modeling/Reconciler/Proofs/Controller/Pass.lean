import Reconciler.Proofs.Controller.ConfigMaps
import Reconciler.Proofs.Controller.Deployments
/-!
Passes of the controllers over a store that objects were loaded into.
-/
namespace Reconciler

namespace Store

variable {scheme : Scheme} {objects created : List Object} {store : Store}

end Store

namespace Controllers

variable {objects created : List Object} {store : Store} {now later : Instant}

end Controllers

end Reconciler
