import Mathlib.Data.List.Basic

/-! # The checks of `VibeZUser`

Two tasks of the load test's user class hold logic of their own. The WebSocket
fallback poll marks its response itself (`catch_response=True`): a success for the
status codes a run without login expects, a failure naming the code otherwise.
`chaos_monkey` calls the health endpoint in one of three ways and swallows whatever
the client raises on the call with a tiny timeout. What the HTTP client gives back
for a request is an input here.
-/
namespace VibeZScripts.Load

/-- What `self.client.get` gives back: a response with its status code, or an exception
it raises. -/
inductive Reply
  | status (code : ℕ)
  | raised (error : List Char)
  deriving DecidableEq, Repr

inductive Mark
  | success
  | failure (message : List Char)
  deriving DecidableEq, Repr

def acceptedCodes : List ℕ := [200, 401, 403]

/-- The `catch_response` check of `websocket_fallback_simulation`. -/
def fallbackMark (statusCode : ℕ) : Mark :=
  if statusCode ∈ acceptedCodes then .success
  else .failure ("Unexpected status: ".toList ++ (toString statusCode).toList)

/-- `random.choice(["latency", "drop", "normal"])`. -/
inductive ChaosAction
  | latency
  | drop
  | normal
  deriving DecidableEq, Repr

/-- `chaos_monkey` after its choice: the exception that leaves the task, if any. The call
with a timeout sits in `try: ... except: pass`; the other two calls do not. -/
def chaosMonkey (action : ChaosAction) (reply : Reply) : Option (List Char) :=
  match action, reply with
  | .drop, _ => none
  | _, .raised error => some error
  | _, .status _ => none

/-- A poll is marked a success exactly for 200, 401 and 403. -/
theorem fallbackMark_eq_success_iff (statusCode : ℕ) :
    fallbackMark statusCode = .success ↔ statusCode = 200 ∨ statusCode = 401 ∨ statusCode = 403 := by
  unfold fallbackMark
  split_ifs with h <;> simp_all [acceptedCodes]

/-- Any other code is a failure whose message names it. -/
theorem fallbackMark_eq_failure_iff (statusCode : ℕ) (message : List Char) :
    fallbackMark statusCode = .failure message ↔
      statusCode ∉ acceptedCodes ∧
        message = "Unexpected status: ".toList ++ (toString statusCode).toList := by
  unfold fallbackMark
  split_ifs with h
  · simp [h]
  · simp [h, eq_comm]

/-- An exception leaves `chaos_monkey` only when the client raised on a call without the
timeout. -/
theorem chaosMonkey_eq_some_iff (action : ChaosAction) (reply : Reply) (error : List Char) :
    chaosMonkey action reply = some error ↔ action ≠ .drop ∧ reply = .raised error := by
  cases action <;> cases reply <;> simp [chaosMonkey, eq_comm]

end VibeZScripts.Load
