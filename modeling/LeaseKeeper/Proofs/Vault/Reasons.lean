/-
# The reasons of a refusal

A refusal may be a document with its reasons: an object with one member for them, or a list of one
item.  Any other body is one reason as it stands, with replacement characters for the bytes that are
the form of no text and without the white space around it, or no reason at all if nothing is left.
-/
import LeaseKeeper.Proofs.Text.Blank
import LeaseKeeper.Proofs.Vault.AuthDocument

namespace LeaseKeeper
namespace Vault

open Json (Document HasNumbers Raw RawDocument RawLexeme Value rawTokens utf8)
open Text (IsTrimmed isBlank)

/-! ### What a body says -/

/-- A value that gives reasons.  All names of an object are texts, and one of its members has the
name for the reasons. -/
inductive GivesReasons : Raw → List String → Prop
  | object {members : List (String × Raw)} {reasons : List String}
      (h : (members.filter (·.1 = "errors")).map (·.2) = [textList reasons]) :
      GivesReasons (.object (members.map fun m => (some m.1, m.2))) reasons
  | array {reasons : List String} : GivesReasons (.array [textList reasons]) reasons

/-- The reasons that the body of a refusal gives. -/
inductive Says (body : List UInt8) : List String → Prop
  | document {v : Raw} {reasons : List String} (hdocument : RawDocument v body)
      (h : GivesReasons v reasons) (hne : reasons ≠ []) : Says body reasons
  /-- The body is a reason as it stands. -/
  | plain {text : String} (hnot : ∀ v reasons, RawDocument v body → GivesReasons v reasons →
      reasons = []) (htext : IsTrimmed isBlank (Text.ofBytesLossy body).toList text.toList)
      (hne : text ≠ "") : Says body [text]
  | blank (h : ∀ c ∈ (Text.ofBytesLossy body).toList, isBlank c = true) : Says body []

variable {v : Raw} {reasons : List String} {body : List UInt8}

lemma errorDocument?_eq_some (hne : reasons ≠ []) :
    errorDocument? v = some reasons ↔ GivesReasons v reasons := by
  constructor
  · intro h
    unfold errorDocument? at h
    split at h
    · obtain ⟨ms, hms, h⟩ := Option.bind_eq_some_iff.mp h
      obtain ⟨found, hfound, h⟩ := Option.bind_eq_some_iff.mp h
      rw [named?_eq_some.mp hms]
      cases found with
      | none => exact absurd (Option.some.inj h).symm hne
      | some w =>
        rw [single?_eq_some, texts?_eq_some.mp h] at hfound
        exact .object hfound
    · exact absurd (Option.some.inj h).symm hne
    · rw [texts?_eq_some.mp h]
      exact .array
    · cases h
  · intro h
    cases h with
    | object hmember =>
      refine Option.bind_eq_some_iff.mpr ⟨_, named?_eq_some.mpr rfl, ?_⟩
      refine Option.bind_eq_some_iff.mpr ⟨some _, single?_eq_some.mpr hmember, ?_⟩
      exact texts?_eq_some.mpr rfl
    | array => exact texts?_eq_some.mpr rfl

/-- A document that gives reasons has a bracket in it. -/
lemma exists_not_blank (hdocument : RawDocument v body) (h : GivesReasons v reasons) :
    ∃ c ∈ (Text.ofBytesLossy body).toList, isBlank c = false := by
  obtain ⟨t, ts, bracket, htokens, hbracket, hword⟩ : ∃ t ts bracket, rawTokens v = t :: ts ∧
      isBlank bracket = false ∧ ∀ w, RawLexeme t w → w = utf8 [bracket] := by
    cases h with
    | object =>
      refine ⟨.openObject, _, Char.ofNat 0x7b, rfl, by decide, fun w hw => ?_⟩
      cases hw with
      | text hl =>
        cases hl
        rfl
    | array =>
      refine ⟨.openArray, _, '[', rfl, by decide, fun w hw => ?_⟩
      cases hw with
      | text hl =>
        cases hl
        rfl
  -- Only white space comes before it, so all bytes up to it are those of characters.
  rw [RawDocument, htokens] at hdocument
  cases hdocument with
  | @cons _ _ blank w rest _ hw _ =>
    rw [hword w hw, ← List.append_assoc, ← Json.utf8_append]
    exact ⟨bracket, Text.mem_ofBytesLossy (by simp) rest, hbracket⟩

lemma plainReason_eq_nil :
    plainReason body = [] ↔ ∀ c ∈ (Text.ofBytesLossy body).toList, isBlank c = true := by
  rw [← Text.trimBoth_eq_nil_iff, ← Text.toList_trimBlank, String.toList_eq_nil_iff, plainReason]
  by_cases hempty : Text.trimBlank (Text.ofBytesLossy body) = ""
  · simp [hempty]
  · simp [hempty]

/-! ### What is read -/

lemma reasonsOf_document (hdocument : RawDocument v body) (h : GivesReasons v reasons)
    (hne : reasons ≠ []) : reasonsOf body = reasons := by
  have hread : (Json.parse? body).bind errorDocument? = some reasons := by
    rw [Json.parse?_eq_some.mpr hdocument, Option.bind_some]
    exact (errorDocument?_eq_some hne).mpr h
  obtain ⟨e, es, rfl⟩ := List.exists_cons_of_ne_nil hne
  rw [reasonsOf, hread]

lemma reasonsOf_plain (hnot : ∀ v reasons, RawDocument v body → GivesReasons v reasons →
    reasons = []) : reasonsOf body = plainReason body := by
  unfold reasonsOf
  split
  · rename_i e es hread
    obtain ⟨v, hv, h⟩ := Option.bind_eq_some_iff.mp hread
    have hgives := (errorDocument?_eq_some (List.cons_ne_nil e es)).mp h
    exact absurd (hnot v _ (Json.parse?_eq_some.mp hv) hgives) (List.cons_ne_nil e es)
  · rfl

lemma reasonsOf_blank (h : ∀ c ∈ (Text.ofBytesLossy body).toList, isBlank c = true) :
    reasonsOf body = [] := by
  rw [reasonsOf_plain, plainReason_eq_nil.mpr h]
  intro v reasons hdocument hgives
  obtain ⟨c, hc, hnot⟩ := exists_not_blank hdocument hgives
  exact absurd (h c hc) (by simp [hnot])

/-- The reasons that are read are those that the body gives, and no others. -/
lemma says_iff : Says body reasons ↔ reasonsOf body = reasons := by
  constructor
  · intro h
    cases h with
    | document hdocument hgives hne => exact reasonsOf_document hdocument hgives hne
    | plain hnot htext hne =>
      have htrim := htext.eq_trimBoth
      rw [← Text.toList_trimBlank, String.toList_inj] at htrim
      rw [htrim] at hne ⊢
      rw [reasonsOf_plain hnot, plainReason, if_neg hne]
    | blank hblank => exact reasonsOf_blank hblank
  · rintro rfl
    by_cases hgives : ∃ v reasons, RawDocument v body ∧ GivesReasons v reasons ∧ reasons ≠ []
    · obtain ⟨v, reasons, hdocument, hgives, hne⟩ := hgives
      rw [reasonsOf_document hdocument hgives hne]
      exact .document hdocument hgives hne
    · have hnot : ∀ v reasons, RawDocument v body → GivesReasons v reasons → reasons = [] :=
        fun v reasons hdocument h => by_contra fun hne => hgives ⟨v, reasons, hdocument, h, hne⟩
      rw [reasonsOf_plain hnot]
      by_cases hempty : Text.trimBlank (Text.ofBytesLossy body) = ""
      · have hnil : plainReason body = [] := by rw [plainReason, if_pos hempty]
        rw [hnil]
        exact .blank (plainReason_eq_nil.mp hnil)
      · have htrimmed := Text.isTrimmed_trimBoth isBlank (Text.ofBytesLossy body).toList
        rw [← Text.toList_trimBlank] at htrimmed
        rw [plainReason, if_neg hempty]
        exact .plain hnot htrimmed hempty

lemma Says.eq_nil_iff (h : Says body reasons) :
    reasons = [] ↔ ∀ c ∈ (Text.ofBytesLossy body).toList, isBlank c = true := by
  constructor
  · rintro rfl
    cases h with
    | document _ _ hne => exact absurd rfl hne
    | blank hblank => exact hblank
  · intro hblank
    rw [← says_iff.mp h, reasonsOf_blank hblank]

/-! ### Refused operations -/

variable {c : Client} {op : Operation} {server : Http.Server} {sent : List Http.Request}
  {status : ℕ}

lemma run_of_refused (hresponds : server.Responds) (hstatus : ¬ (200 ≤ status ∧ status ≤ 299))
    (hfinal : Conversation c op server sent (some (status, body))) :
    (op.run c server).1 = some (.error (.rejected status (reasonsOf body))) := by
  obtain ⟨result, hrun, hverdict⟩ := hfinal.exists_verdict hresponds
  rw [hrun]
  cases hverdict with
  | rejected => rfl
  | malformed hsuccess => exact absurd hsuccess hstatus
  | granted hsuccess => exact absurd hsuccess hstatus

/-- The document of reasons. -/
def refusal (reasons : List String) : Value String :=
  .object [("errors", .array (reasons.map .string))]

/-- The printer writes the document of reasons. -/
lemma document_refusal (reasons : List String) :
    Document (refusal reasons) (refusal reasons).text := by
  have hnumbers : HasNumbers (refusal reasons) := by
    refine .object fun m hm => ?_
    obtain rfl := List.mem_singleton.mp hm
    refine .array fun v hv => ?_
    obtain ⟨reason, -, rfl⟩ := List.mem_map.mp hv
    exact .string reason
  exact hnumbers.document

lemma givesReasons_refusal (reasons : List String) :
    GivesReasons (refusal reasons).raw reasons := by
  have hraw : (refusal reasons).raw =
      .object ([("errors", textList reasons)].map fun m => (some m.1, m.2)) := by
    simp [refusal, Value.raw, Json.rawMembers, Json.rawItems_eq_map, textList]
  rw [hraw]
  exact .object rfl

/-- A refused operation reports what the body says.  If the final answer to an operation is no
success, the operation is rejected with the status of this answer, whatever its body is, and with
the reasons that the body gives.  There are none exactly when the body is blank.  The document of
any reasons, however it is written, gives these reasons again, and the printer writes such a
document. -/
theorem refusal_reasons (hresponds : server.Responds)
    (hstatus : ¬ (200 ≤ status ∧ status ≤ 299))
    (hfinal : Conversation c op server sent (some (status, body))) :
    ∃ reasons, (op.run c server).1 = some (.error (.rejected status reasons)) ∧
      (∀ reasons', Says body reasons' ↔ reasons' = reasons) ∧
      (reasons = [] ↔ ∀ char ∈ (Text.ofBytesLossy body).toList, isBlank char = true) ∧
      ∀ list, list ≠ [] → Document (refusal list) (refusal list).text ∧
        ∀ text, Document (refusal list) text → body = Text.bytes text → reasons = list := by
  refine ⟨reasonsOf body, run_of_refused hresponds hstatus hfinal, ?_,
    (says_iff.mpr rfl).eq_nil_iff, fun list hne => ⟨document_refusal list, ?_⟩⟩
  · exact fun reasons' => says_iff.trans eq_comm
  · rintro text hdocument rfl
    exact reasonsOf_document hdocument.raw (givesReasons_refusal list) hne

/-- A server that refuses with a reason that is empty and one of a quotation mark, the end of a line
and a letter of two bytes. -/
def refusing : Http.Server := answering 403 (Text.bytes (refusal ["", "\"\né"]).text)

/-- These reasons are reported as they are. -/
theorem refusal_reasons_refusing : refusing.Responds ∧ ¬ (200 ≤ 403 ∧ 403 ≤ 299) ∧
    (∃ sent, Conversation ⟨"http://vault", none⟩ (.renewal "s" .zero) refusing sent
      (some (403, Text.bytes (refusal ["", "\"\né"]).text))) ∧
    (Operation.run ⟨"http://vault", none⟩ (.renewal "s" .zero) refusing).1 =
      some (.error (.rejected 403 ["", "\"\né"])) := by
  have hresponds : refusing.Responds := responds_answering _ _
  obtain ⟨sent, hconversation⟩ : ∃ sent, Conversation ⟨"http://vault", none⟩ (.renewal "s" .zero)
      refusing sent (some (403, Text.bytes (refusal ["", "\"\né"]).text)) :=
    conversation_answering (by decide +kernel) (by decide +kernel)
  obtain ⟨reasons, hrun, -, -, hlist⟩ := refusal_reasons hresponds (by decide) hconversation
  obtain ⟨hdocument, hsame⟩ := hlist ["", "\"\né"] (List.cons_ne_nil _ _)
  rw [hsame _ hdocument rfl] at hrun
  exact ⟨hresponds, by decide, ⟨sent, hconversation⟩, hrun⟩

/-! ### Strings that denote no text -/

/-- A document whose first name is a unit without its other half. -/
def loneUnit : String := "\x7b\"\\ud800\":0,\"errors\":[\"a\"]\x7d"

/-- A document whose first value has a byte that is part of no character. -/
def strayByte : List UInt8 :=
  Text.bytes "\x7b\"x\":\"" ++ 0xff :: Text.bytes "\",\"errors\":[\"a\"]\x7d"

/-- A name that denotes no text hides the reasons of an object, and a value that denotes none does
not, although the body then is the form of no text. -/
theorem strings_without_text :
    RawDocument (.object [(none, .number "0"), (some "errors", textList ["a"])])
        (Text.bytes loneUnit) ∧
      (Operation.run ⟨"http://vault", none⟩ (.renewal "s" .zero)
        (answering 400 (Text.bytes loneUnit))).1 = some (.error (.rejected 400 [loneUnit])) ∧
      (∀ s, Text.bytes s ≠ strayByte) ∧
      Text.trimBlank (Text.ofBytesLossy strayByte) ≠ "a" ∧
      (Operation.run ⟨"http://vault", none⟩ (.renewal "s" .zero)
        (answering 400 strayByte)).1 = some (.error (.rejected 400 ["a"])) := by
  have hreasons : reasonsOf (Text.bytes loneUnit) = [loneUnit] := by decide +kernel
  have hreasons' : reasonsOf strayByte = ["a"] := by decide +kernel
  have hformless : Text.ofBytes? strayByte = none := by decide +kernel
  obtain ⟨sent, hlone⟩ : ∃ sent, Conversation ⟨"http://vault", none⟩ (.renewal "s" .zero)
      (answering 400 (Text.bytes loneUnit)) sent (some (400, Text.bytes loneUnit)) :=
    conversation_answering (by decide +kernel) (by decide +kernel)
  obtain ⟨sent', hstray⟩ : ∃ sent, Conversation ⟨"http://vault", none⟩ (.renewal "s" .zero)
      (answering 400 strayByte) sent (some (400, strayByte)) :=
    conversation_answering (by decide +kernel) (by decide +kernel)
  refine ⟨Json.parse?_eq_some.mp rfl, ?_, fun s hs => ?_, by decide +kernel, ?_⟩
  · rw [run_of_refused (responds_answering _ _) (by decide) hlone, hreasons]
  · rw [Text.ofBytes?_eq_some.mpr hs.symm] at hformless
    cases hformless
  · rw [run_of_refused (responds_answering _ _) (by decide) hstray, hreasons']

end Vault
end LeaseKeeper
