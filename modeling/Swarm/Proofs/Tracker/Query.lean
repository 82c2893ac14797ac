import Swarm.Text.Split
import Swarm.Tracker.Request

/-!
Where the parameters of a report stand in the URL that is asked for. A URL ends its query where its
fragment starts, so parameters appended behind a fragment are no part of the query.

Main statement: `parameters_in_query`. The query of the URL has the parts of the announce URL's own
query and then the seven parameters, if the announce URL has no fragment. If it has one, then the
query is left as it is and the fragment takes up the parameters.
-/

namespace Swarm

namespace Url

/-! ### The parts of a URL -/

def after? (mark : Char) : List Char → Option (List Char)
  | [] => none
  | c :: rest => if c = mark then some rest else after? mark rest

def beforeFragment (url : List Char) : List Char := url.takeWhile (· != '#')

/-- What stands in front of a URL's query and its fragment. -/
def stem (url : List Char) : List Char := (beforeFragment url).takeWhile (· != '?')

/-- The query of a URL: what follows its first question mark, up to its fragment. -/
def query? (url : List Char) : Option (List Char) := after? '?' (beforeFragment url)

/-- The fragment of a URL: what follows its first number sign. -/
def fragment? (url : List Char) : Option (List Char) := after? '#' url

variable {mark : Char} {first second : List Char}

theorem after?_append_of_mem (marked : mark ∈ first) :
    ∃ rest, after? mark first = some rest ∧
      after? mark (first ++ second) = some (rest ++ second) := by
  induction first with
  | nil => cases marked
  | cons c rest ih =>
    simp only [List.cons_append, after?]
    split
    next => exact ⟨rest, rfl, rfl⟩
    next other => exact ih ((List.mem_cons.1 marked).resolve_left (Ne.symm other))

theorem after?_of_notMem (unmarked : mark ∉ first) : after? mark first = none := by
  induction first with
  | nil => rfl
  | cons c rest ih =>
    rw [List.mem_cons, not_or] at unmarked
    rw [after?, if_neg (Ne.symm unmarked.1), ih unmarked.2]

theorem after?_append_mark (unmarked : mark ∉ first) :
    after? mark (first ++ mark :: second) = some second := by
  induction first with
  | nil => simp [after?]
  | cons c rest ih =>
    rw [List.mem_cons, not_or] at unmarked
    rw [List.cons_append, after?, if_neg (Ne.symm unmarked.1), ih unmarked.2]

theorem beforeFragment_append_of_mem (marked : '#' ∈ first) :
    beforeFragment (first ++ second) = beforeFragment first :=
  Text.takeWhile_append_of_mem marked second

theorem beforeFragment_of_notMem (unmarked : '#' ∉ first) : beforeFragment first = first :=
  Text.takeWhile_of_notMem unmarked

end Url

namespace Tracker

/-! ### The characters of a parameter -/

def isParameterChar (c : Char) : Bool := c.isAlphanum || c == '%' || c == '_'

theorem isParameterChar_of_mem_escapeOctet {b : UInt8} {c : Char} (member : c ∈ escapeOctet b) :
    isParameterChar c := by
  have all : (List.range 256).all fun n => (escapeOctet (UInt8.ofNat n)).all isParameterChar := by
    decide +kernel
  have own := List.all_eq_true.1 all b.toNat (List.mem_range.2 b.toNat_lt)
  rw [UInt8.ofNat_toNat] at own
  exact List.all_eq_true.1 own c member

theorem isParameterChar_of_mem_escape {b : Bytes} {c : Char} (member : c ∈ escape b) :
    isParameterChar c := by
  obtain ⟨octet, -, written⟩ := List.mem_flatMap.1 member
  exact isParameterChar_of_mem_escapeOctet written

theorem isParameterChar_of_mem_numeral {n : Nat} {c : Char} (member : c ∈ numeral n) :
    isParameterChar c := by
  rw [numeral, Nat.toString_eq_ofList_toDigits, String.toList_ofList] at member
  have digit : c.isDigit := Nat.isDigit_of_mem_toDigits (by decide) (by decide) member
  simp [isParameterChar, Char.isAlphanum, digit]

theorem Request.isParameterChar_of_mem {r : Request} {parameter : String × List Char} {c : Char}
    (listed : parameter ∈ r.parameters) (member : c ∈ parameter.1.toList ++ parameter.2) :
    isParameterChar c := by
  have named : ["info_hash", "peer_id", "port", "uploaded", "downloaded", "left", "compact"].all
      fun name => name.toList.all isParameterChar := by decide
  have name : parameter.1 ∈ r.parameters.map (·.1) := List.mem_map_of_mem listed
  cases List.mem_append.1 member with
  | inl inName => exact List.all_eq_true.1 (List.all_eq_true.1 named _ name) c inName
  | inr inValue =>
    simp only [Request.parameters, List.mem_cons, List.not_mem_nil, or_false] at listed
    rcases listed with rfl | rfl | rfl | rfl | rfl | rfl | rfl
    · exact isParameterChar_of_mem_escape inValue
    · exact isParameterChar_of_mem_escape inValue
    all_goals exact isParameterChar_of_mem_numeral inValue

/-! ### The parameters side by side -/

def written (parameter : String × List Char) : List Char :=
  parameter.1.toList ++ '=' :: parameter.2

theorem joinParameters_cons_cons (first second : String × List Char)
    (rest : List (String × List Char)) : joinParameters (first :: second :: rest) =
      written first ++ '&' :: joinParameters (second :: rest) := by
  simp [joinParameters, written]

theorem mem_joinParameters {parameters : List (String × List Char)} {c : Char}
    (member : c ∈ joinParameters parameters) :
    c = '&' ∨ ∃ parameter ∈ parameters, c ∈ written parameter := by
  fun_induction joinParameters parameters with
  | case1 => cases member
  | case2 name value => exact .inr ⟨_, List.mem_cons_self, member⟩
  | case3 name value rest more ih =>
    have parts : c ∈ written (name, value) ∨ c = '&' ∨ c ∈ joinParameters rest := by
      simpa [written, or_assoc] using member
    rcases parts with here | separator | later
    · exact .inr ⟨_, List.mem_cons_self, here⟩
    · exact .inl separator
    · apply (ih later).imp_right
      rintro ⟨parameter, listed, inside⟩
      exact ⟨parameter, List.mem_cons_of_mem _ listed, inside⟩

/-- Parameters without an ampersand are the parts of what they are joined to. -/
theorem splitOn_joinParameters {parameters : List (String × List Char)} (some : parameters ≠ [])
    (clean : ∀ parameter ∈ parameters, '&' ∉ written parameter) :
    Text.splitOn '&' (joinParameters parameters) = parameters.map written := by
  induction parameters with
  | nil => exact absurd rfl some
  | cons first rest ih =>
    have start := Text.splitOn_of_notMem (clean first List.mem_cons_self)
    cases rest with
    | nil => exact start
    | cons second more =>
      rw [joinParameters_cons_cons, Text.splitOn_append_separator, start,
        ih nofun fun parameter listed => clean parameter (List.mem_cons_of_mem _ listed)]
      rfl

namespace Request

variable {r : Request} {announce : String}

theorem mem_written {parameter : String × List Char} {c : Char} (listed : parameter ∈ r.parameters)
    (member : c ∈ written parameter) : c = '=' ∨ isParameterChar c := by
  rw [written, List.mem_append, List.mem_cons] at member
  by_cases equals : c = '='
  · exact .inl equals
  · refine .inr (isParameterChar_of_mem listed (List.mem_append.2 ?_))
    exact member.imp_right fun rest => rest.resolve_left equals

theorem splitOn_parameters (r : Request) :
    Text.splitOn '&' (joinParameters r.parameters) = r.parameters.map written := by
  apply splitOn_joinParameters (by simp [parameters])
  intro parameter listed member
  have kind := mem_written listed member
  revert kind
  decide

theorem notMem_parameters (r : Request) : '#' ∉ joinParameters r.parameters := by
  intro member
  cases mem_joinParameters member with
  | inl separator => cases separator
  | inr inside =>
    obtain ⟨parameter, listed, member⟩ := inside
    have kind := mem_written listed member
    revert kind
    decide

/-! ### Where the parameters stand -/

def separator (announce : List Char) : Char := if announce.contains '?' then '&' else '?'

theorem url?_of_accepted (accepted : Url.isWebUrl announce = true) (r : Request) :
    ∃ url, r.url? announce = some url ∧ url.toList =
      announce.toList ++ separator announce.toList :: joinParameters r.parameters := by
  refine ⟨_, if_pos accepted, ?_⟩
  rw [String.toList_append, String.toList_ofList, separator]

variable {text : List Char}

def extended (text : List Char) (r : Request) : List Char :=
  text ++ separator text :: joinParameters r.parameters

theorem toList_of_url? {url : String} (asked : r.url? announce = some url) :
    url.toList = extended announce.toList r := by
  unfold Request.url? at asked
  split at asked
  next =>
    cases asked
    rw [String.toList_append, String.toList_ofList, extended, separator]
  next => cases asked

theorem separator_of_mem (asked : '?' ∈ text) : separator text = '&' :=
  if_pos (List.contains_iff_mem.2 asked)

theorem separator_of_notMem (unasked : '?' ∉ text) : separator text = '?' :=
  if_neg (mt List.contains_iff_mem.1 unasked)

theorem notMem_extended (whole : '#' ∉ text) (r : Request) : '#' ∉ extended text r := by
  have other : '#' ≠ separator text := by
    rw [separator]
    split <;> decide
  rw [extended, List.mem_append, List.mem_cons]
  rintro (inText | atSeparator | inParameters)
  · exact whole inText
  · exact other atSeparator
  · exact notMem_parameters r inParameters

theorem stem_extended (text : List Char) (r : Request) :
    Url.stem (extended text r) = Url.stem text := by
  rw [Url.stem, Url.stem]
  by_cases marked : '#' ∈ text
  · rw [extended, Url.beforeFragment_append_of_mem marked]
  · rw [Url.beforeFragment_of_notMem (notMem_extended marked r),
      Url.beforeFragment_of_notMem marked, extended]
    by_cases asked : '?' ∈ text
    · exact Text.takeWhile_append_of_mem asked _
    · rw [separator_of_notMem asked, Text.takeWhile_append_mark asked,
        Text.takeWhile_of_notMem asked]

/-- Without a fragment the parameters are the last parts of the query. -/
theorem query?_extended (whole : '#' ∉ text) (r : Request) :
    ∃ query, Url.query? (extended text r) = some query ∧ Text.splitOn '&' query =
      (Url.query? text).elim [] (Text.splitOn '&') ++ r.parameters.map written := by
  rw [Url.query?, Url.query?, Url.beforeFragment_of_notMem (notMem_extended whole r),
    Url.beforeFragment_of_notMem whole, extended]
  by_cases asked : '?' ∈ text
  · obtain ⟨own, queried, longer⟩ := Url.after?_append_of_mem asked
    refine ⟨_, longer, ?_⟩
    rw [queried, Option.elim_some, separator_of_mem asked, Text.splitOn_append_separator,
      splitOn_parameters]
  · refine ⟨joinParameters r.parameters, ?_, ?_⟩
    · rw [separator_of_notMem asked, Url.after?_append_mark asked]
    · rw [Url.after?_of_notMem asked, splitOn_parameters]
      rfl

/-- Behind a fragment the parameters belong to it. -/
theorem fragment?_extended (marked : '#' ∈ text) (r : Request) :
    Url.query? (extended text r) = Url.query? text ∧
    ∃ own, Url.fragment? text = some own ∧ Url.fragment? (extended text r) =
      some (own ++ separator text :: joinParameters r.parameters) := by
  constructor
  · rw [Url.query?, extended, Url.beforeFragment_append_of_mem marked, Url.query?]
  · exact Url.after?_append_of_mem marked

/-- The URL that reports to a tracker. Its part in front of the query is that of the announce URL.
If the announce URL has no fragment, then the parts of its query, if there are any, and the seven
parameters in their order are the parts of the query. If it has one, its own query is all the query
there is, and the parameters are the end of the fragment. -/
theorem parameters_in_query (accepted : Url.isWebUrl announce = true) (r : Request) :
    ∃ url, r.url? announce = some url ∧ Url.stem url.toList = Url.stem announce.toList ∧
      ('#' ∉ announce.toList → ∃ query, Url.query? url.toList = some query ∧
        Text.splitOn '&' query = (Url.query? announce.toList).elim [] (Text.splitOn '&') ++
          ["info_hash=".toList ++ escape r.infoHash.1, "peer_id=".toList ++ escape r.peerId.1,
            "port=".toList ++ numeral r.port.toNat, "uploaded=".toList ++ numeral r.uploaded.toNat,
            "downloaded=".toList ++ numeral r.downloaded.toNat,
            "left=".toList ++ numeral r.left.toNat,
            "compact=".toList ++ numeral r.compact.toNat]) ∧
      ('#' ∈ announce.toList → Url.query? url.toList = Url.query? announce.toList ∧
        ∃ own, Url.fragment? announce.toList = some own ∧ Url.fragment? url.toList =
          some (own ++ separator announce.toList :: joinParameters r.parameters)) := by
  obtain ⟨url, built, characters⟩ := url?_of_accepted accepted r
  have shape : url.toList = extended announce.toList r := characters
  refine ⟨url, built, ?_⟩
  rw [shape]
  refine ⟨stem_extended announce.toList r, fun whole => ?_,
    fun marked => fragment?_extended marked r⟩
  obtain ⟨query, queried, cut⟩ := query?_extended whole r
  refine ⟨query, queried, cut.trans ?_⟩
  simp [parameters, written]

namespace Sample

def request : Request := ⟨default, default, 6881, 0, 0, 1000, true⟩

end Sample

theorem parameters_in_query_sample :
    Url.isWebUrl "http://t.example/announce?key=1" = true ∧ ∃ url query,
      Sample.request.url? "http://t.example/announce?key=1" = some url ∧
      Url.query? url.toList = some query ∧ (Text.splitOn '&' query).map String.ofList =
        ["key=1", "info_hash=%00%00%00%00%00%00%00%00%00%00%00%00%00%00%00%00%00%00%00%00",
          "peer_id=%00%00%00%00%00%00%00%00%00%00%00%00%00%00%00%00%00%00%00%00", "port=6881",
          "uploaded=0", "downloaded=0", "left=1000", "compact=1"] := by
  have accepted : Url.isWebUrl "http://t.example/announce?key=1" = true := by decide +kernel
  obtain ⟨url, built, -, asked, -⟩ := parameters_in_query accepted Sample.request
  obtain ⟨query, queried, cut⟩ := asked (by decide)
  refine ⟨accepted, url, query, built, queried, ?_⟩
  rw [cut]
  decide +kernel

/-- An announce URL with a fragment and without a query. What is asked for has no query either. -/
theorem parameters_in_fragment : Url.isWebUrl "http://t.example/announce#top" = true ∧
    ∃ url, Sample.request.url? "http://t.example/announce#top" = some url ∧
      Url.query? url.toList = none ∧ Url.fragment? url.toList =
        some ("top?".toList ++ joinParameters Sample.request.parameters) := by
  have accepted : Url.isWebUrl "http://t.example/announce#top" = true := by decide +kernel
  obtain ⟨url, built, characters⟩ := url?_of_accepted accepted Sample.request
  refine ⟨accepted, url, built, ?_⟩
  rw [characters]
  decide +kernel

end Request

end Tracker

end Swarm
