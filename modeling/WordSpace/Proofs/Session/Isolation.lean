import Mathlib
import WordSpace.Sessions

/-!
Sessions side by side do not meet.

A request to one session leaves all others as they are (`Sessions.performAt_of_ne`), and what it is
answered goes by that session alone (`Sessions.performAt_of_getElem?`). So however the requests to
several sessions are mixed, each session gives the turns, and ends up with the variables, that it
has if nothing but its own requests is asked, and what is asked about the lexicon has one answer all
along (`Sessions.performAll_isolated`).
-/

namespace WordSpace.Sessions

open Expression (Room)

variable {room : Room} {lexicon : Lexicon} {seats : List Seat} {seat : Seat} {which other : Nat}
  {request : Request}

/-! ## One request -/

/-- A request is met by the session it goes to. -/
theorem performAt_of_getElem? (there : seats[which]? = some seat) :
    performAt room lexicon seats which request =
      (some (perform room lexicon seat.count seat.vars request),
        seats.set which
          ⟨seat.count, (perform room lexicon seat.count seat.vars request).vars⟩) := by
  rw [performAt, there]

/-- A request to another session leaves a session as it is. -/
theorem performAt_of_ne (apart : other ≠ which) :
    (performAt room lexicon seats other request).2[which]? = seats[which]? := by
  unfold performAt
  split
  · rfl
  · exact List.getElem?_set_ne apart

theorem length_performAt :
    (performAt room lexicon seats which request).2.length = seats.length := by
  unfold performAt
  split
  · rfl
  · exact List.length_set

theorem performAll_cons (room : Room) (lexicon : Lexicon) (seats : List Seat) (which : Nat)
    (request : Request) (rest : List (Nat × Request)) :
    performAll room lexicon seats ((which, request) :: rest) =
      ((performAt room lexicon seats which request).1 ::
          (performAll room lexicon (performAt room lexicon seats which request).2 rest).1,
        (performAll room lexicon (performAt room lexicon seats which request).2 rest).2) := rfl

/-! ## One session -/

/-- The requests to one session, in their order. -/
def requestsTo (which : Nat) (requests : List (Nat × Request)) : List Request :=
  (requests.filter (·.1 = which)).map Prod.snd

theorem requestsTo_cons_self (which : Nat) (request : Request) (rest : List (Nat × Request)) :
    requestsTo which ((which, request) :: rest) = request :: requestsTo which rest := by
  rw [requestsTo, List.filter_cons_of_pos (by simp)]
  rfl

theorem requestsTo_cons_of_ne (apart : other ≠ which) (request : Request)
    (rest : List (Nat × Request)) :
    requestsTo which ((other, request) :: rest) = requestsTo which rest := by
  rw [requestsTo, List.filter_cons_of_neg (by simpa using apart)]
  rfl

/-- The turns that were given to the requests to one session, in their order. -/
def turnsOf (which : Nat) (requests : List (Nat × Request)) (turns : List (Option Turn)) :
    List (Option Turn) :=
  ((requests.zip turns).filter (·.1.1 = which)).map Prod.snd

theorem turnsOf_cons_self (which : Nat) (request : Request) (rest : List (Nat × Request))
    (turn : Option Turn) (turns : List (Option Turn)) :
    turnsOf which ((which, request) :: rest) (turn :: turns) =
      turn :: turnsOf which rest turns := by
  rw [turnsOf, List.zip_cons_cons, List.filter_cons_of_pos (by simp)]
  rfl

theorem turnsOf_cons_of_ne (apart : other ≠ which) (request : Request)
    (rest : List (Nat × Request)) (turn : Option Turn) (turns : List (Option Turn)) :
    turnsOf which ((other, request) :: rest) (turn :: turns) = turnsOf which rest turns := by
  rw [turnsOf, List.zip_cons_cons, List.filter_cons_of_neg (by simpa using apart)]
  rfl

/-- Meets requests to a session that is the only one. -/
def performAlone (room : Room) (lexicon : Lexicon) (seat : Seat) (requests : List Request) :
    List (Option Turn) × List Seat :=
  performAll room lexicon [seat] (requests.map fun request => (0, request))

theorem performAlone_cons (room : Room) (lexicon : Lexicon) (seat : Seat) (request : Request)
    (rest : List Request) :
    performAlone room lexicon seat (request :: rest) =
      let turn := perform room lexicon seat.count seat.vars request
      (some turn :: (performAlone room lexicon ⟨seat.count, turn.vars⟩ rest).1,
        (performAlone room lexicon ⟨seat.count, turn.vars⟩ rest).2) := rfl

/-- Among others a session gives the turns that it gives alone, and comes to the same end. -/
theorem turnsOf_performAll (room : Room) (lexicon : Lexicon) (requests : List (Nat × Request))
    (there : seats[which]? = some seat) :
    turnsOf which requests (performAll room lexicon seats requests).1 =
        (performAlone room lexicon seat (requestsTo which requests)).1 ∧
      ∃ last, (performAll room lexicon seats requests).2[which]? = some last ∧
        (performAlone room lexicon seat (requestsTo which requests)).2 = [last] := by
  induction requests generalizing seats seat with
  | nil => exact ⟨rfl, seat, there, rfl⟩
  | cons entry rest ih =>
    obtain ⟨target, request⟩ := entry
    rw [performAll_cons]
    by_cases own : target = which
    · -- The request is to this session: it gives its turn, and goes on from what is behind it.
      subst own
      rw [requestsTo_cons_self, turnsOf_cons_self, performAlone_cons, performAt_of_getElem? there]
      have next : (seats.set target
          ⟨seat.count, (perform room lexicon seat.count seat.vars request).vars⟩)[target]? =
            some ⟨seat.count, (perform room lexicon seat.count seat.vars request).vars⟩ := by
        obtain ⟨bound, -⟩ := List.getElem?_eq_some_iff.1 there
        exact List.getElem?_set_self bound
      obtain ⟨turns, last, ended, endedAlone⟩ := ih next
      exact ⟨congrArg _ turns, last, ended, endedAlone⟩
    · rw [requestsTo_cons_of_ne own, turnsOf_cons_of_ne own]
      exact ih ((performAt_of_ne own).trans there)

/-! ## The lexicon -/

/-- The reply to a request that is about the lexicon and no session. -/
def Request.lexiconReply? (lexicon : Lexicon) : Request → Option Reply
  | .look word => some (.looked (lexicon.get? word))
  | .search query count excluded => some (.found (lexicon.nearest query count excluded))
  | _ => none

/-- What is asked about the lexicon is answered by it, whatever session is asked. -/
theorem perform_reply_eq {count : Int} {vars : Variables} {reply : Reply}
    (about : request.lexiconReply? lexicon = some reply) :
    (perform room lexicon count vars request).reply = reply := by
  unfold Request.lexiconReply? at about
  split at about
  case h_1 word =>
    cases about
    rfl
  case h_2 query count excluded =>
    cases about
    rfl
  case h_3 => cases about

/-- At every point of a run the lexicon gives the same replies. -/
theorem performAll_lexiconReply? {requests : List (Nat × Request)} {i : Nat} {reply : Reply}
    (there : which < seats.length) (asked : requests[i]? = some (which, request))
    (about : request.lexiconReply? lexicon = some reply) :
    ∃ turn, (performAll room lexicon seats requests).1[i]? = some (some turn) ∧
      turn.reply = reply := by
  induction requests generalizing seats i with
  | nil => cases asked
  | cons entry rest ih =>
    obtain ⟨target, first⟩ := entry
    rw [performAll_cons]
    cases i with
    | zero =>
      cases asked
      rw [performAt_of_getElem? (List.getElem?_eq_getElem there)]
      exact ⟨_, rfl, perform_reply_eq about⟩
    | succ i => exact ih (length_performAt.symm ▸ there) asked

/-! ## All sessions -/

/-- However the requests to sessions over one lexicon are mixed, each session gives the turns that
it gives if nothing but its own requests is asked, in their order, and ends with the same variables,
and what is asked about the lexicon is answered alike at every point. -/
theorem performAll_isolated (room : Room) (lexicon : Lexicon) (seats : List Seat)
    (requests : List (Nat × Request)) :
    let run := performAll room lexicon seats requests
    ∀ which : Fin seats.length,
      let alone := performAlone room lexicon seats[which] (requestsTo which requests)
      turnsOf which requests run.1 = alone.1 ∧
        (∃ last, run.2[which.val]? = some last ∧ alone.2 = [last]) ∧
        ∀ (i : Nat) (request : Request) (reply : Reply), requests[i]? = some (which.val, request) →
          request.lexiconReply? lexicon = some reply →
            ∃ turn, run.1[i]? = some (some turn) ∧ turn.reply = reply := by
  intro run which alone
  obtain ⟨turns, ended⟩ :=
    turnsOf_performAll room lexicon requests (List.getElem?_eq_getElem which.isLt)
  refine ⟨turns, ended, ?_⟩
  intro i request reply asked about
  exact performAll_lexiconReply? which.isLt asked about

end WordSpace.Sessions
