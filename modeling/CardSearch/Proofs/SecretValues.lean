import CardSearch.Proofs.LogDocuments
/-!
Secrets in log documents. Two records that differ at most in values of secret names are told apart
neither by their documents nor by their faults, also where a value of a secret name is one that no
document can hold. Main statement: so it is for all records, and the mark of a hidden value stands under
every secret name that is shown.
-/
namespace CardSearch.Log

open Document

def SameButSecret (first second : String × Value) : Prop :=
  first.1 = second.1 ∧ (isSecret first.1 = false → first.2 = second.2)

/-- Two records that differ at most in values of secret names. The further values have the same names
in the same order. -/
structure Record.SameButSecrets (first second : Record) : Prop where
  logger : first.logger = second.logger
  level : first.level = second.level
  template : first.template = second.template
  arguments : first.arguments = second.arguments
  raised : first.raised = second.raised
  extra : List.Forall₂ SameButSecret first.extra second.extra

namespace Document

variable {name : String} {fields first second extra : List (String × Value)}

/-! ### What two records share -/

theorem disclosed_of_isSecret (secret : isSecret name = true) (value : Value) :
    disclosed name value = .text hidden := if_pos secret

theorem disclosed_congr {a b : String × Value} (same : SameButSecret a b) :
    disclosed a.1 a.2 = disclosed b.1 b.2 := by
  obtain ⟨names, values⟩ := same
  cases secret : isSecret a.1 with
  | true => rw [disclosed_of_isSecret secret, disclosed_of_isSecret (names ▸ secret)]
  | false => rw [names, values secret]

theorem addExtra_congr (same : List.Forall₂ SameButSecret first second)
    (fields : List (String × Value)) : addExtra fields first = addExtra fields second := by
  induction same generalizing fields with
  | nil => rfl
  | cons here _ ih => rw [addExtra_cons, addExtra_cons, disclosed_congr here, here.1, ih]

theorem fields_congr {first second : Record} (now : String) (context : Context)
    (same : first.SameButSecrets second) :
    Document.fields now context first = Document.fields now context second := by
  -- the fields of every record are made without its further values
  have message : first.message = second.message := by
    rw [Record.message, Record.message, same.template, same.arguments]
  have common : ∀ message, base now context first message = base now context second message := by
    intro message
    rw [base, base, same.level, same.logger, same.raised]
  rw [Document.fields, Document.fields, message]
  cases second.message with
  | error fault => rfl
  | ok message => exact congrArg Except.ok (by rw [common, addExtra_congr same.extra])

/-! ### What stands under a secret name -/

/-- The mark stays where it stands, and takes the place of each further value of the name. -/
theorem lookup_addExtra_of_isSecret (shown : isShown name = true) (secret : isSecret name = true)
    (marked : Value.lookup name fields = some (.text hidden) ∨ name ∈ extra.map Prod.fst) :
    Value.lookup name (addExtra fields extra) = some (.text hidden) := by
  induction extra generalizing fields with
  | nil => exact marked.resolve_right List.not_mem_nil
  | cons field extra ih =>
    rw [List.map_cons, List.mem_cons] at marked
    rw [addExtra_cons]
    apply ih
    by_cases here : field.1 = name
    · left
      rw [here, if_pos shown, Value.lookup_assign, if_pos rfl, disclosed_of_isSecret secret]
    · refine marked.imp (fun before => ?_) fun named => named.resolve_left (Ne.symm here)
      split
      · rw [Value.lookup_assign, if_neg here, before]
      · exact before

theorem lookup_fields_of_isSecret {now : String} {context : Context} {record : Record}
    (made : Document.fields now context record = .ok fields) (given : name ∈ record.extra.map Prod.fst)
    (shown : isShown name = true) (secret : isSecret name = true) :
    Value.lookup name fields = some (.text hidden) := by
  rw [Document.fields] at made
  cases formatted : record.message with
  | error fault =>
    rw [formatted] at made
    contradiction
  | ok message =>
    rw [formatted] at made
    cases made
    exact lookup_addExtra_of_isSecret shown secret (.inr given)

end Document

/-- Records that differ at most in values of secret names have the same document or the same fault, at
the same time and in the same context. The mark of a hidden value stands under every secret name that
is shown. -/
theorem secrets_are_not_told (now : String) (context : Context) {first second : Record}
    (same : first.SameButSecrets second) :
    first.document now context = second.document now context ∧
      ∀ fields, Document.fields now context first = .ok fields → ∀ name ∈ first.extra.map Prod.fst,
        isShown name = true → isSecret name = true →
          Value.lookup name fields = some (.text Document.hidden) := by
  refine ⟨?_, fun fields made name given shown secret =>
    lookup_fields_of_isSecret made given shown secret⟩
  rw [Record.document, Record.document, fields_congr now context same]

/-- A record with a secret, a value that replaces a field of every record, and a number. -/
def secretRecord (secret : Value) : Record where
  logger := "search.store"
  level := .info
  template := "found %d cards"
  arguments := [.int 3]
  extra := [("level", .text "high"), ("Api_Key", secret), ("n", .int 7)]

/-- A secret text and a secret number beyond 64 bits are not told apart. -/
theorem secret_number_is_not_told :
    (secretRecord (.text "key")).SameButSecrets (secretRecord (.list [.int (2 ^ 64)])) ∧
      (secretRecord (.text "key")).document "now" ⟨some "t", some "s", []⟩ =
        (secretRecord (.list [.int (2 ^ 64)])).document "now" ⟨some "t", some "s", []⟩ ∧
      ∃ fields, Document.fields "now" ⟨some "t", some "s", []⟩ (secretRecord (.text "key")) = .ok fields ∧
        Value.lookup "Api_Key" fields = some (.text Document.hidden) := by
  have secret : isSecret "Api_Key" = true := by decide +kernel
  have same : (secretRecord (.text "key")).SameButSecrets (secretRecord (.list [.int (2 ^ 64)])) := by
    refine ⟨rfl, rfl, rfl, rfl, rfl, ?_⟩
    refine .cons ⟨rfl, fun _ => rfl⟩ (.cons ⟨rfl, fun known => ?_⟩ (.cons ⟨rfl, fun _ => rfl⟩ .nil))
    rw [secret] at known
    contradiction
  have formatted : (secretRecord (.text "key")).message = .ok "found 3 cards" := by decide +kernel
  obtain ⟨documents, marked⟩ := secrets_are_not_told "now" ⟨some "t", some "s", []⟩ same
  refine ⟨same, documents, _, by rw [Document.fields, formatted], ?_⟩
  refine marked _ (by rw [Document.fields, formatted]) "Api_Key" ?_ (by decide +kernel) secret
  exact List.mem_cons_of_mem _ List.mem_cons_self

end CardSearch.Log
