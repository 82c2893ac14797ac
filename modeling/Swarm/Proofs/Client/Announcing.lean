import Swarm.Client.Supervision
import Swarm.Proofs.Tracker.Query
import Swarm.Proofs.Transfer.Ledger

/-!
What an announce reports while a download goes on. It reads what is left and what is done at two
turns with the transfer, and others may have theirs in between. So the two figures make up the
length of the content and, once more, the pieces that were made done between the two turns
(`announced_figures`); they make up the length if there were none, and not otherwise.

The query of the URL that is asked for ends with the two figures, but not if the announce URL has a
fragment: behind that they are no part of the query (`announced_beyond_length_and_query`).
-/

namespace Swarm.Client

open Tracker (Request)
open Storage (OutputFile)
open Transfer (Call Sound Counted)

inductive Move where
  | call (c : Call)
  | read

structure Joint where
  transfer : Transfer
  announcing : Announcing

namespace Joint

def move (s : Joint) : Move → Joint
  | .call c => { s with transfer := (s.transfer.call c).2 }
  | .read => { s with announcing := s.announcing.read s.transfer }

def after (s : Joint) (moves : List Move) : Joint := moves.foldl move s

theorem after_append (s : Joint) (first second : List Move) :
    s.after (first ++ second) = (s.after first).after second :=
  List.foldl_append

theorem after_calls (s : Joint) (calls : List Call) :
    s.after (calls.map .call) = ⟨s.transfer.after calls, s.announcing⟩ := by
  induction calls generalizing s with
  | nil => rfl
  | cons c calls ih =>
    rw [List.map_cons]
    exact ih (s.move (.call c))

theorem announcing_after {left downloaded : Nat} (t : Transfer) (moves : List Move) :
    (after ⟨t, .bothRead left downloaded⟩ moves).announcing = .bothRead left downloaded := by
  induction moves generalizing t with
  | nil => rfl
  | cons m moves ih => cases m <;> exact ih _

theorem moves_cases (moves : List Move) : (∃ calls : List Call, moves = calls.map .call) ∨
    ∃ (calls : List Call) (rest : List Move), moves = calls.map .call ++ .read :: rest := by
  induction moves with
  | nil => exact Or.inl ⟨[], rfl⟩
  | cons m moves ih =>
    cases m with
    | read => exact Or.inr ⟨[], moves, rfl⟩
    | call c =>
      rcases ih with ⟨calls, rfl⟩ | ⟨calls, rest, rfl⟩
      · exact Or.inl ⟨c :: calls, rfl⟩
      · exact Or.inr ⟨c :: calls, rest, rfl⟩

variable {t : Transfer} {moves : List Move} {a b c : Nat}

theorem of_leftRead (sent : (after ⟨t, .leftRead a⟩ moves).announcing = .bothRead b c) :
    b = a ∧ ∃ (between : List Call) (rest : List Move),
      moves = between.map .call ++ .read :: rest ∧ c = (t.after between).downloaded := by
  rcases moves_cases moves with ⟨calls, rfl⟩ | ⟨between, rest, rfl⟩
  · rw [after_calls] at sent
    cases sent
  · rw [after_append, after_calls] at sent
    have final : (Announcing.bothRead a (t.after between).downloaded) = .bothRead b c :=
      (announcing_after (t.after between) rest).symm.trans sent
    cases final
    exact ⟨rfl, between, rest, rfl, rfl⟩

/-- Both figures are those of the states at the two turns. -/
theorem of_begun (sent : (after ⟨t, .begun⟩ moves).announcing = .bothRead b c) :
    ∃ (before between : List Call) (rest : List Move),
      moves = before.map .call ++ .read :: (between.map .call ++ .read :: rest) ∧
      b = (t.after before).bytesLeft ∧ c = ((t.after before).after between).downloaded := by
  rcases moves_cases moves with ⟨calls, rfl⟩ | ⟨before, more, rfl⟩
  · rw [after_calls] at sent
    cases sent
  · rw [after_append, after_calls] at sent
    obtain ⟨rfl, between, rest, rfl, rfl⟩ := of_leftRead (t := t.after before) sent
    exact ⟨before, between, rest, rfl, rfl, rfl⟩

end Joint

/-! ### The figures of two states -/

variable {t : Transfer}

theorem bytesLeft_lt (sound : t.Sound) : t.bytesLeft < UInt64.size :=
  Nat.lt_of_le_of_lt (Nat.sub_le _ _) sound.wellFormed.length_lt

theorem downloaded_lt (sound : t.Sound) (counted : t.Counted) : t.downloaded < UInt64.size :=
  Nat.lt_of_le_of_lt (sound.downloaded_le counted) sound.wellFormed.length_lt

/-- What was left at some time and what is done later make up the content and, once more, the pieces
that were made done meanwhile. -/
theorem downloaded_add_bytesLeft (sound : t.Sound) (counted : t.Counted) (calls : List Call) :
    ∃ done : List Nat, (t.after calls).finished = done.reverse ++ t.finished ∧
      (t.after calls).downloaded + t.bytesLeft =
        t.totalBytes + (done.map t.content.sizeAt).sum := by
  obtain ⟨done, finished, -⟩ := sound.gains_eq calls
  have later : (t.after calls).downloaded = _ := sound.after_counted counted calls
  have now : t.downloaded = _ := counted
  have fits := sound.downloaded_le counted
  refine ⟨done, finished, ?_⟩
  rw [(sound.settings_after calls).1, finished, List.map_append, List.sum_append, List.map_reverse,
    List.sum_reverse, ← now] at later
  rw [later, Transfer.bytesLeft]
  omega

theorem sum_sizeAt_eq_zero_iff {c : Content} (wf : c.WellFormed) {pieces : List Nat}
    (known : ∀ i ∈ pieces, i < c.pieceCount) : (pieces.map c.sizeAt).sum = 0 ↔ pieces = [] := by
  cases pieces with
  | nil => exact iff_of_true rfl rfl
  | cons i rest =>
    have positive := wf.sizeAt_pos (known i List.mem_cons_self)
    rw [List.map_cons, List.sum_cons]
    exact iff_of_false (by omega) nofun

variable {d : Descriptor} {ownId : PeerId} {port : UInt16} {left downloaded : Nat}

theorem url_report {announce url : String}
    (written : (report d ownId port left downloaded).url? announce = some url) :
    ∃ head, url = head ++ s!"&downloaded={(UInt64.ofNat downloaded).toNat}&left={
      (UInt64.ofNat left).toNat}&compact=1" := by
  refine ⟨String.ofList (announce.toList ++ Request.separator announce.toList ::
    ("info_hash=".toList ++ Tracker.escape d.infoHash.1 ++ "&peer_id=".toList ++
      Tracker.escape ownId.1 ++ "&port=".toList ++ Tracker.numeral port.toNat ++
      "&uploaded=0".toList)), String.toList_injective ?_⟩
  have one : Nat.toDigits 10 1 = ['1'] := by decide
  rw [Request.toList_of_url? written]
  simp [Request.extended, report, Request.parameters, Tracker.joinParameters, Tracker.numeral,
    toString, one]

/-- The figures are the last parts of the query. Behind a fragment they are no part of it. -/
theorem query_report {announce url : String}
    (written : (report d ownId port left downloaded).url? announce = some url) :
    ('#' ∉ announce.toList → ∃ query others, Url.query? url.toList = some query ∧
      Text.splitOn '&' query = others ++
        ["downloaded=".toList ++ Tracker.numeral (UInt64.ofNat downloaded).toNat,
          "left=".toList ++ Tracker.numeral (UInt64.ofNat left).toNat, "compact=1".toList]) ∧
    ('#' ∈ announce.toList → Url.query? url.toList = Url.query? announce.toList) := by
  rw [Request.toList_of_url? written]
  constructor
  · intro whole
    obtain ⟨query, asked, parts⟩ :=
      Request.query?_extended whole (report d ownId port left downloaded)
    refine ⟨query, (Url.query? announce.toList).elim [] (Text.splitOn '&') ++
      ((report d ownId port left downloaded).parameters.take 4).map Tracker.written, asked, ?_⟩
    have one : Tracker.numeral 1 = ['1'] := by decide
    simp [parts, report, Request.parameters, Tracker.written, one]
  · intro marked
    exact (Request.fragment?_extended marked _).1

theorem report_figures (sound : t.Sound) (counted : t.Counted) (content : t.content = d.content)
    (calls : List Call) (ownId : PeerId) (port : UInt16) :
    let request := report d ownId port t.bytesLeft (t.after calls).downloaded
    request.left.toNat = t.bytesLeft ∧ request.downloaded.toNat = (t.after calls).downloaded ∧
    ∃ done : List Nat, (t.after calls).finished = done.reverse ++ t.finished ∧
      (t.after calls).finished.Nodup ∧ request.downloaded.toNat + request.left.toNat =
        d.content.length + (done.map d.content.sizeAt).sum ∧
      (request.downloaded.toNat + request.left.toNat = d.content.length ↔ done = []) := by
  have later := sound.after calls
  have left : (UInt64.ofNat t.bytesLeft).toNat = t.bytesLeft :=
    UInt64.toNat_ofNat_of_lt' (bytesLeft_lt sound)
  have downloaded : (UInt64.ofNat (t.after calls).downloaded).toNat = (t.after calls).downloaded :=
    UInt64.toNat_ofNat_of_lt' (downloaded_lt later (sound.after_counted counted calls))
  obtain ⟨done, finished, sum⟩ := downloaded_add_bytesLeft sound counted calls
  have known : ∀ i ∈ done, i < t.content.pieceCount := fun i member =>
    (sound.settings_after calls).1 ▸ later.lt_of_finished (by simp [finished, member])
  have nothing := sum_sizeAt_eq_zero_iff sound.wellFormed known
  rw [Transfer.totalBytes, content] at sum
  rw [content] at nothing
  simp only [report, left, downloaded]
  refine ⟨trivial, trivial, done, finished, later.finished_nodup, sum, ?_⟩
  rw [sum, ← nothing]
  omega

/-- What an announce reports while others have their turns in whatever order: what is left when it
reads this first, and what is done when it reads that. The two figures make up the length of the
content and, once more, the pieces that were made done in between; so they make up the length if
there are no such pieces, and only then. The URL ends with the same figures, and so does its query
if the announce URL has no fragment. If it has one, the query is the announce URL's own. -/
theorem announced_figures (wf : d.content.WellFormed) (maxPeers requestTimeout : Nat)
    (file : OutputFile) {moves : List Move} (sent : (Joint.after
      ⟨.start d.content maxPeers requestTimeout file, .begun⟩ moves).announcing =
        .bothRead left downloaded) (ownId : PeerId) (port : UInt16) :
    ∃ (before between : List Call) (rest : List Move) (done : List Nat),
      let first := (Transfer.start d.content maxPeers requestTimeout file).after before
      let second := first.after between
      let request := report d ownId port left downloaded
      moves = before.map .call ++ .read :: (between.map .call ++ .read :: rest) ∧
      request.left.toNat = first.bytesLeft ∧ request.downloaded.toNat = second.downloaded ∧
      second.finished = done.reverse ++ first.finished ∧ second.finished.Nodup ∧
      request.downloaded.toNat + request.left.toNat =
        d.content.length + (done.map d.content.sizeAt).sum ∧
      (request.downloaded.toNat + request.left.toNat = d.content.length ↔ done = []) ∧
      ∀ announce url, request.url? announce = some url →
        (∃ head, url = head ++
          s!"&downloaded={second.downloaded}&left={first.bytesLeft}&compact=1") ∧
        ('#' ∉ announce.toList → ∃ query others, Url.query? url.toList = some query ∧
          Text.splitOn '&' query = others ++
            ["downloaded=".toList ++ Tracker.numeral second.downloaded,
              "left=".toList ++ Tracker.numeral first.bytesLeft, "compact=1".toList]) ∧
        ('#' ∈ announce.toList → Url.query? url.toList = Url.query? announce.toList) := by
  obtain ⟨before, between, rest, rfl, rfl, rfl⟩ := Joint.of_begun sent
  have begun := Sound.start wf maxPeers requestTimeout file
  have content := (begun.settings_after before).1
  obtain ⟨first, second, done, finished, once, sum, only⟩ := report_figures (begun.after before)
    (begun.after_counted rfl before) content between ownId port
  refine ⟨before, between, rest, done, rfl, first, second, finished, once, sum, only,
    fun announce url written => ?_⟩
  have told := url_report written
  have asked := query_report written
  simp only [report] at first second
  rw [first, second] at told asked
  exact ⟨told, asked⟩

namespace Sample

def descriptor : Descriptor := ⟨"http://tracker.test/announce", default, Transfer.Sample.content⟩

/-- The first piece is put together between the two turns of an announce. -/
def moves : List Move :=
  [.call (.register Transfer.Sample.peer [192]), .call (.pick Transfer.Sample.peer 0), .read,
    .call (.deliver 0 0 [1, 2] .smooth), .read]

def joint : Joint :=
  .after ⟨.start descriptor.content 4 1000 (.ofContent "out" 3 [9]), .begun⟩ moves

/-- The state after an announce to which nothing happens. -/
def quiet : Joint :=
  .after ⟨.start descriptor.content 4 1000 (.ofContent "out" 3 [9]), .begun⟩ [.read, .read]

theorem announcing_joint : joint.announcing = .bothRead 3 2 := by decide +kernel

end Sample

theorem announced_figures_sample : Sample.joint.announcing = .bothRead 3 2 ∧
    ∃ done : List Nat, done ≠ [] ∧ 5 = Sample.descriptor.content.length +
      (done.map Sample.descriptor.content.sizeAt).sum := by
  have sent := Sample.announcing_joint
  obtain ⟨-, -, -, done, -, -, -, -, -, sum, only, -⟩ :=
    announced_figures (d := Sample.descriptor) Transfer.Sample.wellFormed 4 1000
      (.ofContent "out" 3 [9]) sent default 6881
  exact ⟨sent, done, fun none => absurd (only.2 none) (by decide +kernel), sum⟩

/-- An announce during which a piece is put together reports more octets than there are. And an
announce without such a piece leaves no figures in the query if the announce URL has a fragment. -/
theorem announced_beyond_length_and_query :
    (∃ left downloaded, Sample.joint.announcing = .bothRead left downloaded ∧
      let request := report Sample.descriptor default 6881 left downloaded
      request.downloaded.toNat + request.left.toNat ≠ Sample.descriptor.content.length) ∧
    ∃ left downloaded url, Sample.quiet.announcing = .bothRead left downloaded ∧
      (report Sample.descriptor default 6881 left downloaded).url?
        "http://tracker.test/announce#top" = some url ∧ Url.query? url.toList = none := by
  have asked : (report Sample.descriptor default 6881 3 0).url?
      "http://tracker.test/announce#top" = some _ := if_pos (by decide +kernel)
  refine ⟨⟨3, 2, Sample.announcing_joint, by decide +kernel⟩, 3, 0, _, by decide +kernel, asked, ?_⟩
  rw [(query_report asked).2 (by decide)]
  decide +kernel

end Swarm.Client
