import Mathlib.Algebra.Ring.Nat
import Swarm.Duration
import Swarm.Proofs.Bencode.RoundTrip
import Swarm.Proofs.Tracker.Query
import Swarm.Tracker.Response

/-!
What an announce amounts to. The rules are stated of the reply, without the reader (`Told`): the
first of them that applies decides, and they refer to the status only for whether it is in the range
of success. An answer without peers and without a time to ask again is that of a tracker that cannot
be had; its interval is the longest span of time there is, and no number of seconds in a body makes
that span.

Main statement: `answer_by_rule`.
-/

namespace Swarm

def Duration.longest : Duration := ⟨2 ^ 64 - 1, 999999999⟩

namespace Tracker

open Bencode (Value Entries decode)

def Interval.span : Interval → Duration
  | .seconds n => .ofSeconds n
  | .never => .longest

/-- Whole seconds are never the longest span. -/
theorem Interval.span_eq_longest_iff {i : Interval} : i.span = .longest ↔ i = .never := by
  cases i <;> simp [span, Duration.ofSeconds, Duration.longest]

namespace Response

/-! ### The rules -/

def Holds (fields : Entries) (key : String) (v : Value) : Prop := (Bytes.ofText key, v) ∈ fields

/-- The peers that a dictionary lists: none if it says nothing of peers. -/
inductive Lists (fields : Entries) : List Peer → Prop
  | nothing (absent : ∀ v, ¬ Holds fields "peers" v) : Lists fields []
  | compact {records : Bytes} {peers : List Peer}
      (given : Holds fields "peers" (.bytes records)) (whole : compactPeers records = .ok peers) :
      Lists fields peers
  | entries {entries : List Value} (given : Holds fields "peers" (.list entries)) :
      Lists fields (listedPeers entries)

inductive Told (body : Bytes) : Except TrackerError Response → Prop
  | malformed {cause : Bencode.DecodeError} (unread : decode body = .error cause) :
      Told body (.error (.malformed cause))
  | notDictionary {value : Value} (read : decode body = .ok value)
      (other : ∀ fields, value ≠ .dict fields) :
      Told body (.error (.invalidResponse (.notDictionary value.kind)))
  | refused {fields : Entries} {reason : Value} (read : decode body = .ok (.dict fields))
      (given : Holds fields "failure reason" reason) :
      Told body (.error (.refused (Utf8.lossy (reason.bytes?.getD []))))
  | missingInterval {fields : Entries} (read : decode body = .ok (.dict fields))
      (granted : ∀ reason, ¬ Holds fields "failure reason" reason)
      (absent : ∀ n, ¬ Holds fields "interval" (.integer n)) :
      Told body (.error (.invalidResponse .missingInterval))
  | negativeInterval {fields : Entries} {n : Int} (read : decode body = .ok (.dict fields))
      (granted : ∀ reason, ¬ Holds fields "failure reason" reason)
      (timed : Holds fields "interval" (.integer n)) (negative : n < 0) :
      Told body (.error (.invalidResponse (.negativeInterval n)))
  | raggedPeers {fields : Entries} {n : Int} {records : Bytes}
      (read : decode body = .ok (.dict fields))
      (granted : ∀ reason, ¬ Holds fields "failure reason" reason)
      (timed : Holds fields "interval" (.integer n)) (ahead : 0 ≤ n)
      (given : Holds fields "peers" (.bytes records)) (ragged : ¬ 6 ∣ records.length) :
      Told body (.error (.raggedPeers records.length))
  | peersKind {fields : Entries} {n : Int} {other : Value} (read : decode body = .ok (.dict fields))
      (granted : ∀ reason, ¬ Holds fields "failure reason" reason)
      (timed : Holds fields "interval" (.integer n)) (ahead : 0 ≤ n)
      (given : Holds fields "peers" other)
      (unfit : (∀ records, other ≠ .bytes records) ∧ ∀ entries, other ≠ .list entries) :
      Told body (.error (.invalidResponse (.peersKind other.kind)))
  | answered {fields : Entries} {n : Int} {peers : List Peer}
      (read : decode body = .ok (.dict fields))
      (granted : ∀ reason, ¬ Holds fields "failure reason" reason)
      (timed : Holds fields "interval" (.integer n)) (ahead : 0 ≤ n) (listed : Lists fields peers) :
      Told body (.ok ⟨peers, .seconds (min n.toNat (2 ^ 64 - 1))⟩)

variable {body : Bytes} {fields : Entries} {key : String} {v : Value}

/-! ### Fields -/

theorem holds_iff (read : decode body = .ok (.dict fields)) :
    Holds fields key v ↔ (Value.dict fields).get? (Bytes.ofText key) = some v := by
  obtain ⟨d, fits, -, -, same⟩ := Bencode.decode_eq_ok_iff.1 read
  have kept : (Value.dict fields).WellFormed := same ▸ Bencode.Derivation.wellFormed_value fits
  exact (Bencode.Entries.get?_eq_some_iff (Value.wellFormed_dict.1 kept).1).symm

theorem get?_eq_none (read : decode body = .ok (.dict fields))
    (absent : ∀ v, ¬ Holds fields key v) :
    (Value.dict fields).get? (Bytes.ofText key) = none :=
  Option.eq_none_iff_forall_ne_some.2 fun v found => absent v ((holds_iff read).2 found)

/-! ### The reader -/

theorem parse_of_malformed {cause : Bencode.DecodeError} (unread : decode body = .error cause) :
    parse body = .error (.malformed cause) := by
  rw [parse, unread]
  rfl

theorem parse_of_notDictionary (read : decode body = .ok v) (other : ∀ fields, v ≠ .dict fields) :
    parse body = .error (.invalidResponse (.notDictionary v.kind)) := by
  rw [parse, read]
  cases v with
  | dict fields => exact absurd rfl (other fields)
  | _ => rfl

/-- A reason for a failure comes first, then the interval is read, and then the peers. -/
theorem parse_of_dict (read : decode body = .ok (.dict fields)) : parse body =
    match (Value.dict fields).get? (Bytes.ofText "failure reason") with
    | some reason => .error (.refused (Utf8.lossy (reason.bytes?.getD [])))
    | none => intervalOf (.dict fields) >>= fun seconds =>
      peersOf (.dict fields) >>= fun peers => .ok ⟨peers, .seconds seconds⟩ := by
  simp only [parse, read, Except.mapError, bind, Except.bind]
  cases (Value.dict fields).get? (Bytes.ofText "failure reason") <;> rfl

theorem parse_of_granted (read : decode body = .ok (.dict fields))
    (granted : ∀ reason, ¬ Holds fields "failure reason" reason) :
    parse body = intervalOf (.dict fields) >>= fun seconds =>
      peersOf (.dict fields) >>= fun peers => .ok ⟨peers, .seconds seconds⟩ := by
  rw [parse_of_dict read, get?_eq_none read granted]

theorem intervalOf_of_absent (read : decode body = .ok (.dict fields))
    (absent : ∀ n, ¬ Holds fields "interval" (.integer n)) :
    intervalOf (.dict fields) = .error (.invalidResponse .missingInterval) := by
  have nothing : ((Value.dict fields).get? (Bytes.ofText "interval")).bind Value.int? = none := by
    cases found : (Value.dict fields).get? (Bytes.ofText "interval") with
    | none => rfl
    | some v =>
      cases v with
      | integer n => exact absurd ((holds_iff read).2 found) (absent n)
      | _ => rfl
  rw [intervalOf, nothing]

theorem intervalOf_of_holds {n : Int} (read : decode body = .ok (.dict fields))
    (timed : Holds fields "interval" (.integer n)) : intervalOf (.dict fields) =
      if n < 0 then .error (.invalidResponse (.negativeInterval n))
      else .ok (min n.toNat (2 ^ 64 - 1)) := by
  have found : ((Value.dict fields).get? (Bytes.ofText "interval")).bind Value.int? = some n := by
    rw [(holds_iff read).1 timed]
    rfl
  rw [intervalOf, found]
  cases n with
  | ofNat m => exact (if_neg (Int.not_lt.2 (Int.natCast_nonneg m))).symm
  | negSucc m => exact (if_pos (Int.negSucc_lt_zero m)).symm

theorem parse_of_timed {n : Int} (read : decode body = .ok (.dict fields))
    (granted : ∀ reason, ¬ Holds fields "failure reason" reason)
    (timed : Holds fields "interval" (.integer n)) (ahead : 0 ≤ n) : parse body =
      peersOf (.dict fields) >>= fun peers => .ok ⟨peers, .seconds (min n.toNat (2 ^ 64 - 1))⟩ := by
  rw [parse_of_granted read granted, intervalOf_of_holds read timed, if_neg (Int.not_lt.2 ahead)]
  rfl

theorem compactPeers_of_ragged {records : Bytes} (ragged : ¬ 6 ∣ records.length) :
    compactPeers records = .error (.raggedPeers records.length) :=
  if_pos fun whole => ragged (Nat.dvd_of_mod_eq_zero whole)

theorem compactPeers_of_whole {records : Bytes} (whole : 6 ∣ records.length) :
    compactPeers records = .ok ((Bytes.records 6 (records.length / 6) records).map Peer.ofRecord) :=
  if_neg fun ragged => ragged (Nat.mod_eq_zero_of_dvd whole)

theorem Lists.peersOf_eq {peers : List Peer} (read : decode body = .ok (.dict fields))
    (listed : Lists fields peers) : peersOf (.dict fields) = .ok peers := by
  cases listed with
  | nothing absent => rw [peersOf, get?_eq_none read absent]
  | compact given whole => rw [peersOf, (holds_iff read).1 given]; exact whole
  | entries given => rw [peersOf, (holds_iff read).1 given]

variable {outcome : Except TrackerError Response}

theorem Told.parse_eq (told : Told body outcome) : parse body = outcome := by
  cases told with
  | malformed unread => exact parse_of_malformed unread
  | notDictionary read other => exact parse_of_notDictionary read other
  | refused read given => rw [parse_of_dict read, (holds_iff read).1 given]
  | missingInterval read granted absent =>
    rw [parse_of_granted read granted, intervalOf_of_absent read absent]
    rfl
  | negativeInterval read granted timed negative =>
    rw [parse_of_granted read granted, intervalOf_of_holds read timed, if_pos negative]
    rfl
  | raggedPeers read granted timed ahead given ragged =>
    rw [parse_of_timed read granted timed ahead, peersOf, (holds_iff read).1 given]
    dsimp only
    rw [compactPeers_of_ragged ragged]
    rfl
  | peersKind read granted timed ahead given unfit =>
    rw [parse_of_timed read granted timed ahead, peersOf, (holds_iff read).1 given]
    split
    next absent => cases absent
    next same => exact absurd (Option.some.inj same) (unfit.1 _)
    next same => exact absurd (Option.some.inj same) (unfit.2 _)
    next same => cases same; rfl
  | answered read granted timed ahead listed =>
    rw [parse_of_timed read granted timed ahead, listed.peersOf_eq read]
    rfl

theorem exists_told (body : Bytes) : ∃ outcome, Told body outcome := by
  cases read : decode body with
  | error cause => exact ⟨_, .malformed read⟩
  | ok value =>
    by_cases dict : ∃ fields, value = .dict fields
    case neg => exact ⟨_, .notDictionary read fun fields same => dict ⟨fields, same⟩⟩
    obtain ⟨fields, rfl⟩ := dict
    by_cases given : ∃ reason, Holds fields "failure reason" reason
    case pos => exact given.elim fun reason given => ⟨_, .refused read given⟩
    have granted := not_exists.1 given
    by_cases timed : ∃ n, Holds fields "interval" (.integer n)
    case neg => exact ⟨_, .missingInterval read granted (not_exists.1 timed)⟩
    obtain ⟨n, timed⟩ := timed
    rcases Int.lt_or_le n 0 with negative | ahead
    · exact ⟨_, .negativeInterval read granted timed negative⟩
    by_cases present : ∃ v, Holds fields "peers" v
    case neg => exact ⟨_, .answered read granted timed ahead (.nothing (not_exists.1 present))⟩
    obtain ⟨v, given⟩ := present
    cases v with
    | bytes records =>
      by_cases whole : 6 ∣ records.length
      case pos =>
        exact ⟨_, .answered read granted timed ahead (.compact given (compactPeers_of_whole whole))⟩
      case neg => exact ⟨_, .raggedPeers read granted timed ahead given whole⟩
    | list entries => exact ⟨_, .answered read granted timed ahead (.entries given)⟩
    | integer m => exact ⟨_, .peersKind read granted timed ahead given ⟨nofun, nofun⟩⟩
    | dict more => exact ⟨_, .peersKind read granted timed ahead given ⟨nofun, nofun⟩⟩

theorem told_iff : Told body outcome ↔ parse body = outcome := by
  refine ⟨Told.parse_eq, fun same => ?_⟩
  obtain ⟨other, told⟩ := exists_told body
  exact told.parse_eq.symm.trans same ▸ told

theorem interval_of_told {r : Response} (told : Told body (.ok r)) : r.interval ≠ .never := by
  cases told with
  | answered => exact nofun

/-! ### The answer -/

theorem isUnavailable_iff {r : Response} : r.isUnavailable = true ↔ r.interval = .never := by
  rw [isUnavailable, beq_iff_eq]

theorem ofReply_of_success {reply : HttpReply}
    (success : 200 ≤ reply.status ∧ reply.status ≤ 299) : ofReply reply = parse reply.body := by
  have inside : reply.isSuccess = true := by
    rw [HttpReply.isSuccess, Bool.and_eq_true, decide_eq_true_eq, decide_eq_true_eq]
    omega
  exact if_pos inside

theorem ofReply_of_failure {reply : HttpReply}
    (failure : ¬ (200 ≤ reply.status ∧ reply.status ≤ 299)) : ofReply reply = .ok unavailable := by
  have outside : ¬ reply.isSuccess = true := by
    rw [HttpReply.isSuccess, Bool.and_eq_true, decide_eq_true_eq, decide_eq_true_eq]
    omega
  exact if_neg outside

/-- An announce to a web server that replies gives the answer of a tracker that cannot be had
exactly if the reply is outside the range of success, and that answer has no peers and the longest
interval.
In the range of success the rules for the body decide, and the interval of an answer is never the
longest. -/
theorem answer_by_rule {σ : Type} (fetch : String → σ → Except String HttpReply × σ) {url : String}
    (accepted : Url.isWebUrl url = true) (request : Request) {s s' : σ} {reply : HttpReply}
    (replied : ∀ target, request.url? url = some target → fetch target s = (.ok reply, s')) :
    ∃ result, announce fetch url request s = (result, s') ∧
      ((∃ r, result = .ok r ∧ r.isUnavailable = true) ↔
        ¬ (200 ≤ reply.status ∧ reply.status ≤ 299)) ∧
      (∀ r, result = .ok r → (r.isUnavailable = true ↔ r.interval.span = .longest) ∧
        (r.isUnavailable = true → r.peers = [])) ∧
      (200 ≤ reply.status ∧ reply.status ≤ 299 →
        ∀ outcome, Told reply.body outcome ↔ result = outcome) := by
  obtain ⟨target, built, -⟩ := Request.url?_of_accepted accepted request
  have asked : announce fetch url request s = (ofReply reply, s') := by
    rw [announce, built]
    dsimp only
    rw [replied target built]
  refine ⟨ofReply reply, asked, ?_⟩
  by_cases success : 200 ≤ reply.status ∧ reply.status ≤ 299
  · rw [ofReply_of_success success]
    have timed : ∀ r, parse reply.body = .ok r → ¬ r.isUnavailable = true := fun r read never =>
      interval_of_told (told_iff.2 read) (isUnavailable_iff.1 never)
    refine ⟨iff_of_false ?_ (not_not_intro success), fun r read => ⟨?_, ?_⟩, fun _ _ => told_iff⟩
    · rintro ⟨r, read, never⟩
      exact timed r read never
    · rw [isUnavailable_iff, Interval.span_eq_longest_iff]
    · exact fun never => absurd never (timed r read)
  · rw [ofReply_of_failure success]
    refine ⟨iff_of_true ⟨_, rfl, rfl⟩ success, fun r same => ?_,
      fun inside => absurd inside success⟩
    cases same
    exact ⟨iff_of_true rfl rfl, fun _ => rfl⟩

namespace Sample

def serve (reply : HttpReply) (_ : String) (s : Unit) : Except String HttpReply × Unit :=
  (.ok reply, s)

/-- An answer with a peer, and more seconds to wait than 64 bits hold. -/
def endless : HttpReply :=
  ⟨200, Bytes.ofText "d8:intervali99999999999999999999999e5:peers6:abcdefe"⟩

end Sample

theorem answer_by_rule_sample : Url.isWebUrl "http://t.example/a" = true ∧
    (∀ target s, Sample.serve Sample.endless target s = (.ok Sample.endless, s)) ∧
    ∃ result, announce (Sample.serve Sample.endless) "http://t.example/a" Request.Sample.request ()
      = (result, ()) ∧ (¬ ∃ r, result = .ok r ∧ r.isUnavailable = true) ∧
      result =
        .ok ⟨[⟨⟨.v4 ⟨97, 98, 99, 100⟩, 25958, 0⟩, none⟩], .seconds 18446744073709551615⟩ := by
  have accepted : Url.isWebUrl "http://t.example/a" = true := by decide +kernel
  have read : parse Sample.endless.body =
      .ok ⟨[⟨⟨.v4 ⟨97, 98, 99, 100⟩, 25958, 0⟩, none⟩], .seconds 18446744073709551615⟩ := by
    decide +kernel
  obtain ⟨result, asked, unavailable, -, rules⟩ :=
    answer_by_rule (Sample.serve Sample.endless) accepted Request.Sample.request fun _ _ => rfl
  have success : 200 ≤ Sample.endless.status ∧ Sample.endless.status ≤ 299 := by decide
  exact ⟨accepted, fun _ _ => rfl, result, asked, fun never => unavailable.1 never success,
    (rules success _).1 (told_iff.2 read)⟩

end Response

end Tracker

end Swarm
