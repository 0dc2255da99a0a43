/-
# Members and items of a value that was read

The texts of a list, the names of an object, and a member that may occur once, in terms of the
values from which they are taken.
-/
import LeaseKeeper.Proofs.Text.Utf8
import LeaseKeeper.Vault.Response

namespace LeaseKeeper
namespace Vault

open Json (Raw)

/-- A list of texts. -/
def textList (texts : List String) : Raw := .array (texts.map fun s => .string (some s))

lemma text?_eq_some {v : Raw} {s : String} : text? v = some s ↔ v = .string (some s) := by
  cases v <;> simp [text?]

lemma texts?_eq_some {v : Raw} {texts : List String} :
    texts? v = some texts ↔ v = textList texts := by
  cases v with
  | array items =>
    refine (Text.mapM_eq_some fun _ _ => text?_eq_some).trans ?_
    simp [textList]
  | _ => simp [texts?, textList]

/-- All names are texts. -/
lemma named?_eq_some {members : List (Option String × Raw)} {ms : List (String × Raw)} :
    named? members = some ms ↔ members = ms.map fun m => (some m.1, m.2) := by
  refine Text.mapM_eq_some ?_
  rintro ⟨name, v⟩ ⟨name', v'⟩
  cases name <;> simp [eq_comm]

/-- A name is given to no member or to one. -/
lemma single?_eq_some {members : List (String × Raw)} {name : String} {v : Option Raw} :
    single? members name = some v ↔ (members.filter (·.1 = name)).map (·.2) = v.toList := by
  unfold single?
  generalize members.filter (·.1 = name) = found
  cases found with
  | nil => cases v <;> simp
  | cons m rest =>
    cases rest with
    | nil => cases v <;> simp
    | cons m' rest => cases v <;> simp

end Vault
end LeaseKeeper
