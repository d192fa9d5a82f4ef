import CycleMiner.Node.Client

/-!
# Results in replies

Under the statuses 401 and 403 a reply refuses the request, whatever its text.  Under any other
status there is a result exactly if the text is an object with one and no error.

* `Json.ReportsError`   a reply tells of an error;
* `Delivery.json?`      the JSON of a reply whose text counts;
* `resultOf_eq_ok_iff`, `resultOf_error_cases`   when there is a result, and which fault there is
  otherwise.
-/

namespace CycleMiner

def Json.ReportsError (v : Json) : Prop := ∃ e, v.member? "error" = some e ∧ e ≠ .null

def Delivery.json? : Delivery → Option Json
  | .reply status text => if status = 401 ∨ status = 403 then none else text.bind Json.parse?
  | .unreachable _ | .broken _ => none

section
variable {v result : Json} {method : String} {d : Delivery} {f : Fault} {status : Nat}
  {text : Option String}

theorem Json.isNull_iff : v.isNull = true ↔ v = .null := by
  cases v <;> simp [isNull]

theorem Json.isNull_error_iff :
    ((v.member? "error").getD .null).isNull = true ↔ ¬ v.ReportsError := by
  rw [isNull_iff, ReportsError]
  cases v.member? "error" with
  | none => simp
  | some e => simp

/-- only an object has members -/
theorem Json.eq_object_of_member? {key : String} (h : v.member? key = some result) :
    ∃ members, v = .object members := by
  cases v with
  | object members => exact ⟨members, rfl⟩
  | _ => cases h

theorem resultIn_of_reports (h : v.ReportsError) : resultIn v = .error (nodeError
    ((v.member? "error").getD .null)) :=
  if_neg fun hnull => Json.isNull_error_iff.1 hnull h

theorem resultIn_of_not_reports (h : ¬ v.ReportsError) : resultIn v =
    match v.member? "result" with
    | some result => .ok result
    | none => .error (.protocol .missingResult) :=
  if_pos (Json.isNull_error_iff.2 h)

theorem resultIn_eq_ok_iff :
    resultIn v = .ok result ↔ ¬ v.ReportsError ∧ v.member? "result" = some result := by
  by_cases h : v.ReportsError
  · rw [resultIn_of_reports h]
    exact iff_of_false nofun fun hok => hok.1 h
  · rw [resultIn_of_not_reports h]
    cases v.member? "result" with
    | none => exact iff_of_false nofun fun hok => nomatch hok.2
    | some r => simp [h]

theorem resultOf_reply (h401 : status ≠ 401) (h403 : status ≠ 403) :
    resultOf method (.reply status text) =
      match text.bind Json.parse? with
      | none => .error (.protocol (.unreadable method (Status.text status)))
      | some v => resultIn v :=
  (if_neg h401).trans (if_neg h403)

theorem json?_reply (h401 : status ≠ 401) (h403 : status ≠ 403) :
    (Delivery.reply status text).json? = text.bind Json.parse? :=
  if_neg (not_or.2 ⟨h401, h403⟩)

theorem json?_eq_some_iff : d.json? = some v ↔ ∃ status text, d = .reply status text ∧
    status ≠ 401 ∧ status ≠ 403 ∧ text.bind Json.parse? = some v := by
  cases d with
  | reply status text =>
    constructor
    · intro h
      rw [Delivery.json?] at h
      split at h
      · cases h
      · rename_i hstatus
        rw [not_or] at hstatus
        exact ⟨status, text, rfl, hstatus.1, hstatus.2, h⟩
    · rintro ⟨status, text, e, h401, h403, h⟩
      cases e
      rw [json?_reply h401 h403, h]
  | _ => exact iff_of_false nofun fun ⟨_, _, e, _⟩ => nomatch e

/-- there is a result exactly in an object with one and no error -/
theorem resultOf_eq_ok_iff : resultOf method d = .ok result ↔
    ∃ v, d.json? = some v ∧ ¬ v.ReportsError ∧ v.member? "result" = some result := by
  cases d with
  | unreachable text => exact iff_of_false nofun fun ⟨_, h, _⟩ => nomatch h
  | broken text => exact iff_of_false nofun fun ⟨_, h, _⟩ => nomatch h
  | reply status text =>
    by_cases h401 : status = 401
    · rw [h401]
      exact iff_of_false nofun fun ⟨_, h, _⟩ => nomatch h
    by_cases h403 : status = 403
    · rw [h403]
      exact iff_of_false nofun fun ⟨_, h, _⟩ => nomatch h
    rw [resultOf_reply h401 h403, json?_reply h401 h403]
    cases text.bind Json.parse? with
    | none => exact iff_of_false nofun fun ⟨_, h, _⟩ => nomatch h
    | some v => simp [resultIn_eq_ok_iff]

/-- a reply whose text counts and that gives no result tells of an error, which the fault then tells
of as well, or it cannot be used -/
theorem resultOf_error_cases (h401 : status ≠ 401) (h403 : status ≠ 403)
    (h : resultOf method (.reply status text) = .error f) :
    ((∃ v, text.bind Json.parse? = some v ∧ v.ReportsError) ∧ ∃ code reason, f = .rpc code reason) ∨
    ((¬ ∃ v, text.bind Json.parse? = some v ∧ v.ReportsError) ∧ ∃ g, f = .protocol g) := by
  rw [resultOf_reply h401 h403] at h
  cases hv : text.bind Json.parse? with
  | none =>
    rw [hv] at h
    cases h
    exact .inr ⟨by simp, _, rfl⟩
  | some v =>
    rw [hv] at h
    dsimp only at h
    by_cases hreports : v.ReportsError
    · rw [resultIn_of_reports hreports] at h
      cases h
      exact .inl ⟨⟨v, rfl, hreports⟩, _, _, rfl⟩
    · rw [resultIn_of_not_reports hreports] at h
      refine .inr ⟨fun ⟨_, heq, hr⟩ => hreports (Option.some.inj heq ▸ hr), ?_⟩
      split at h
      · cases h
      · cases h
        exact ⟨_, rfl⟩

end

end CycleMiner
