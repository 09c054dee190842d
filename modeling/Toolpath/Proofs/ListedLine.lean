/-
Toolpath/Proofs/ListedLine.lean

How an action and a diagnostic are shown, said apart from the functions that write them: what stands
in the line for each kind of action (`Action.ListedAs`), and in the one for each kind of broken word
(`Diagnostic.WarnedAs`).
-/
import Toolpath.Listing
import Toolpath.Proofs.Journal

namespace Toolpath

/-! ### Actions -/

namespace Action

end Action

/-! ### Diagnostics -/

namespace Diagnostic

end Diagnostic

end Toolpath
