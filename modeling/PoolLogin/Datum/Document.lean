import PoolLogin.Datum.Basic

/-!
What a case file holds, as far as scenarios are concerned. Values are referred to by `ν`, which may
be values themselves or places in a table of them.
-/

namespace PoolLogin

/-- An item of a case file: a map with its entries, or another value. -/
inductive Item (ν : Type) where
  | map (whole : ν) (entries : Entries Datum ν)
  | other (whole : ν)
  deriving Repr

/-- What a case file holds. -/
inductive Document (ν : Type) where
  | nothing
  | list (items : List (Item ν))
  /-- A value that is neither null nor a list. -/
  | other
  deriving Repr

namespace Datum

/-- A value as an item of a case file. -/
def item (datum : Datum) : Item Datum :=
  match datum.entries? with
  | some entries => .map datum entries
  | none => .other datum

/-- A value as what a case file holds. -/
def document : Datum → Document Datum
  | .null => .nothing
  | .list items => .list (items.map item)
  | _ => .other

end Datum

end PoolLogin
