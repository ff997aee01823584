import Provision.Proofs.Client.Absence

namespace Provision

namespace ApiResponse

variable {response : ApiResponse} {name : String}

/-- Whether a pair is the first with a name among the information of a response. -/
def IsFirst (response : ApiResponse) (name : String) (pair : NameValuePair) : Prop :=
  pair.name = name ∧ ∃ before after, response.info = before ++ pair :: after ∧
    ∀ other ∈ before, other.name ≠ name

theorem infoValue?_eq_some_iff {value : String} :
    response.infoValue? name = some value ↔
      ∃ pair, response.IsFirst name pair ∧ pair.value = value := by
  simp [infoValue?, IsFirst, List.find?_eq_some_iff_append]

theorem infoValue?_eq_none_iff :
    response.infoValue? name = none ↔ ∀ pair ∈ response.info, pair.name ≠ name := by
  simp [infoValue?, List.find?_eq_none]

end ApiResponse

namespace Client

open Service

/-- What a response says of the identifier that it should hold under a name. -/
inductive Identifies (kind : IdKind) (name : String) (response : ApiResponse) :
    Except Error (Id kind) → Prop where
  | valid {pair : NameValuePair} {uuid : Uuid} (first : response.IsFirst name pair)
    (read : Uuid.ofString? pair.value = some uuid) : Identifies kind name response (.ok ⟨uuid⟩)
  | malformed {pair : NameValuePair} (first : response.IsFirst name pair)
    (unread : Uuid.ofString? pair.value = none) :
    Identifies kind name response (.error (.invalidUuid pair.value))
  | unnamed (without : ∀ pair ∈ response.info, pair.name ≠ name) :
    Identifies kind name response
      (.error (.parse s!"{response.operation} response did not include '{name}'"))

theorem createdId_eq_iff {kind : IdKind} {name : String} {response : ApiResponse}
    {result : Except Error (Id kind)} :
    createdId name response = result ↔ Identifies kind name response result := by
  constructor
  · rintro rfl
    cases held : response.infoValue? name with
    | none =>
      simp only [createdId, held]
      exact .unnamed (ApiResponse.infoValue?_eq_none_iff.mp held)
    | some value =>
      obtain ⟨pair, first, rfl⟩ := ApiResponse.infoValue?_eq_some_iff.mp held
      simp only [createdId, held, Id.parse]
      cases read : Uuid.ofString? pair.value with
      | none => exact .malformed first read
      | some uuid => exact .valid first read
  · rintro (⟨first, read⟩ | ⟨first, unread⟩ | without)
    · simp [createdId, Id.parse, ApiResponse.infoValue?_eq_some_iff.mpr ⟨_, first, rfl⟩, read]
    · simp [createdId, Id.parse, ApiResponse.infoValue?_eq_some_iff.mpr ⟨_, first, rfl⟩, unread]
    · simp [createdId, ApiResponse.infoValue?_eq_none_iff.mpr without]

inductive Answers (reply : Reply) : Except Error ApiResponse → Prop where
  | accepted {response : ApiResponse} (succeeded : reply.isSuccess)
    (read : ApiResponse.record.codec.decode reply.body = .ok response) :
    Answers reply (.ok response)
  | unread {refusal : Json.Refusal} (succeeded : reply.isSuccess)
    (unread : ApiResponse.record.codec.decode reply.body = .error refusal) :
    Answers reply (.error (.parse refusal.message))
  /-- What was to be changed is not there, as a response explains. -/
  | missing {response : ApiResponse} (absent : ReportsAbsence reply)
    (read : ApiResponse.record.codec.decode reply.body = .ok response) :
    Answers reply (.error (.notFound response.message))
  | lost {refusal : Json.Refusal} (absent : ReportsAbsence reply)
    (unread : ApiResponse.record.codec.decode reply.body = .error refusal) :
    Answers reply (.error (.notFound reply.text))
  | explained {response : ApiResponse} (failed : ¬ reply.isSuccess)
    (present : ¬ ReportsAbsence reply)
    (read : ApiResponse.record.codec.decode reply.body = .ok response) :
    Answers reply (.error (.api reply.status response.responseCode response.message))
  | unexplained {refusal : Json.Refusal} (failed : ¬ reply.isSuccess)
    (present : ¬ ReportsAbsence reply)
    (unread : ApiResponse.record.codec.decode reply.body = .error refusal) :
    Answers reply (.error (.api reply.status (statusCode reply.status) reply.text))

private theorem failure_of_missing {reply : Reply} {response : ApiResponse}
    (absent : ReportsAbsence reply)
    (read : ApiResponse.record.codec.decode reply.body = .ok response) :
    failure reply = .notFound response.message := by
  have told : reply.status = 404 ∨ response.responseCode = ApiResponse.resourceNotFound := by
    rcases absent.2 with status | ⟨other, same, code⟩
    · exact .inl status
    · cases read.symm.trans same
      exact .inr code
  simp [failure, read, told]

private theorem failure_of_lost {reply : Reply} {refusal : Json.Refusal}
    (absent : ReportsAbsence reply)
    (unread : ApiResponse.record.codec.decode reply.body = .error refusal) :
    failure reply = .notFound reply.text := by
  rcases absent.2 with status | ⟨other, read, code⟩
  · simp [failure, unread, status]
  · cases unread.symm.trans read

private theorem Answers.decode_eq {reply : Reply} {result : Except Error ApiResponse}
    (answers : Answers reply result) :
    decode ApiResponse.record.codec.decode reply = result := by
  cases answers with
  | accepted succeeded read => exact decode_of_read succeeded read
  | unread succeeded unread => exact decode_of_unread succeeded unread
  | missing absent read => rw [decode_of_failed absent.1, failure_of_missing absent read]
  | lost absent unread => rw [decode_of_failed absent.1, failure_of_lost absent unread]
  | explained failed present read =>
    rw [decode_of_failed failed, failure_of_response failed present read]
  | unexplained failed present unread =>
    rw [decode_of_failed failed, failure_of_unexplained failed present unread]

private theorem exists_answers (reply : Reply) : ∃ result, Answers reply result := by
  cases read : ApiResponse.record.codec.decode reply.body with
  | ok response =>
    by_cases succeeded : reply.isSuccess
    · exact ⟨_, .accepted succeeded read⟩
    by_cases absent : ReportsAbsence reply
    · exact ⟨_, .missing absent read⟩
    · exact ⟨_, .explained succeeded absent read⟩
  | error refusal =>
    by_cases succeeded : reply.isSuccess
    · exact ⟨_, .unread succeeded read⟩
    by_cases absent : ReportsAbsence reply
    · exact ⟨_, .lost absent read⟩
    · exact ⟨_, .unexplained succeeded absent read⟩

theorem decode_eq_iff {reply : Reply} {result : Except Error ApiResponse} :
    decode ApiResponse.record.codec.decode reply = result ↔ Answers reply result := by
  constructor
  · rintro rfl
    obtain ⟨result, answers⟩ := exists_answers reply
    rw [answers.decode_eq]
    exact answers
  · exact Answers.decode_eq

inductive Makes (kind : IdKind) (name : String) (reply : Reply) :
    Except Error (Id kind) → Prop where
  | accepted {response : ApiResponse} {result : Except Error (Id kind)}
    (answers : Answers reply (.ok response)) (identifies : Identifies kind name response result) :
    Makes kind name reply result
  | refused {error : Error} (answers : Answers reply (.error error)) :
    Makes kind name reply (.error error)

theorem decode_bind_eq_iff {kind : IdKind} {name : String} {reply : Reply}
    {result : Except Error (Id kind)} :
    (decode ApiResponse.record.codec.decode reply).bind (createdId name) = result ↔
      Makes kind name reply result := by
  constructor
  · rintro rfl
    cases said : decode ApiResponse.record.codec.decode reply with
    | error error => exact .refused (decode_eq_iff.mp said)
    | ok response => exact .accepted (decode_eq_iff.mp said) (createdId_eq_iff.mp rfl)
  · rintro (⟨answers, identifies⟩ | answers)
    · rw [decode_eq_iff.mpr answers]
      exact createdId_eq_iff.mpr identifies
    · rw [decode_eq_iff.mpr answers]
      rfl

end Client

end Provision
