import Swarm.Proofs.Tracker.Query

/-!
What the parameters of a report tell the tracker. A reader takes the text behind the announce URL
apart: at the ampersands into parameters, each of those at its equals sign into a name and a value,
and every value is decoded. It knows escapes of any octet and numerals with zeros in front, so it
says nothing about how the text was written.

Main statement: `parameters_read_back`. The reader gets the report back, so two reports to one
announce URL never ask for the same URL.
-/

namespace Swarm.Tracker

/-! ### Reading values -/

def octetOf? (high low : Char) : Option UInt8 := do
  let h ← Hex.value? high
  let l ← Hex.value? low
  return UInt8.ofNat (16 * h + l)

/-- The octets that a text with percent escapes stands for. An escape is a percent sign with two
hexadecimal digits, and every other character has to be an ASCII one. -/
def unescape? : List Char → Option Bytes
  | [] => some []
  | '%' :: high :: low :: rest => do
    let octet ← octetOf? high low
    let later ← unescape? rest
    return octet :: later
  | c :: rest =>
    if c ≠ '%' ∧ c.toNat < 128 then (unescape? rest).map (UInt8.ofNat c.toNat :: ·) else none

def decimal? (numeral : List Char) : Option Nat :=
  if numeral ≠ [] ∧ numeral.all Char.isDigit then some (Nat.ofDigitChars 10 numeral 0) else none

theorem plain_octet {b : UInt8} (plain : isPlain b = true) :
    (Char.ofNat b.toNat).toNat = b.toNat ∧ b.toNat < 128 ∧ Char.ofNat b.toNat ≠ '%' ∧
      (Char.ofNat b.toNat).isAlphanum = true := by
  have all : ∀ n ∈ List.range 256, isPlain (UInt8.ofNat n) = true → (Char.ofNat n).toNat = n ∧
      n < 128 ∧ Char.ofNat n ≠ '%' ∧ (Char.ofNat n).isAlphanum = true := by
    decide +kernel
  exact all b.toNat (List.mem_range.2 b.toNat_lt) (by rwa [UInt8.ofNat_toNat])

theorem upperDigit_isAlphanum {n : Nat} (small : n < 16) :
    (Hex.upperDigit n).isAlphanum = true := by
  have all : ∀ i : Fin 16, (Hex.upperDigit i).isAlphanum = true := by decide
  exact all ⟨n, small⟩

theorem mem_escape {b : Bytes} {c : Char} (member : c ∈ escape b) :
    c.isAlphanum = true ∨ c = '%' := by
  obtain ⟨octet, -, written⟩ := List.mem_flatMap.1 member
  have bound := octet.toNat_lt
  rw [escapeOctet] at written
  split at written
  next plain =>
    rw [List.mem_singleton.1 written]
    exact .inl (plain_octet plain).2.2.2
  next =>
    simp only [List.mem_cons, List.not_mem_nil, or_false] at written
    rcases written with rfl | rfl | rfl
    · exact .inr rfl
    · exact .inl (upperDigit_isAlphanum (by omega))
    · exact .inl (upperDigit_isAlphanum (by omega))

theorem octetOf?_upperDigit (b : UInt8) :
    octetOf? (Hex.upperDigit (b.toNat / 16)) (Hex.upperDigit (b.toNat % 16)) = some b := by
  have bound := b.toNat_lt
  have whole : 16 * (b.toNat / 16) + b.toNat % 16 = b.toNat := Nat.div_add_mod b.toNat 16
  rw [octetOf?, Hex.value?_upperDigit (by omega), Hex.value?_upperDigit (by omega)]
  change some (UInt8.ofNat (16 * (b.toNat / 16) + b.toNat % 16)) = some b
  rw [whole, UInt8.ofNat_toNat]

theorem unescape?_cons_of_ne {c : Char} (other : c ≠ '%') (small : c.toNat < 128)
    (rest : List Char) :
    unescape? (c :: rest) = (unescape? rest).map (UInt8.ofNat c.toNat :: ·) := by
  rw [unescape?, if_pos ⟨other, small⟩]
  rintro _ _ _ rfl
  exact absurd rfl other

theorem unescape?_escapeOctet_append (b : UInt8) (rest : List Char) :
    unescape? (escapeOctet b ++ rest) = (unescape? rest).map (b :: ·) := by
  rw [escapeOctet]
  split
  next plain =>
    obtain ⟨same, small, other, -⟩ := plain_octet plain
    rw [List.singleton_append, unescape?_cons_of_ne other (by omega), same, UInt8.ofNat_toNat]
  next =>
    simp only [List.cons_append, List.nil_append, unescape?, octetOf?_upperDigit]
    cases unescape? rest <;> rfl

theorem unescape?_escape (b : Bytes) : unescape? (escape b) = some b := by
  induction b with
  | nil => rfl
  | cons octet rest ih =>
    have front := unescape?_escapeOctet_append octet (escape rest)
    rw [ih] at front
    exact front

theorem decimal?_numeral (n : Nat) : decimal? (numeral n) = some n := by
  have digits : numeral n = Nat.toDigits 10 n := by
    rw [numeral, Nat.toString_eq_ofList_toDigits, String.toList_ofList]
  have filled : Nat.toDigits 10 n ≠ [] := Nat.toDigits_ne_nil
  have clean : (Nat.toDigits 10 n).all Char.isDigit = true :=
    List.all_eq_true.2 fun c => Nat.isDigit_of_mem_toDigits (by decide) (by decide)
  rw [decimal?, digits, if_pos ⟨filled, clean⟩, Nat.ofDigitChars_toDigits (by decide) (by decide)]

/-! ### Reading reports -/

def valueOf? (name : String) : List (List Char) → Option (List Char)
  | [own, value] => if own = name.toList then some value else none
  | _ => none

def octetsOf? (name : String) (parameter : List (List Char)) : Option (Fixed 20) :=
  ((valueOf? name parameter).bind unescape?).bind (Bytes.fixed? 20)

def numberOf? (bound : Nat) (name : String) (parameter : List (List Char)) : Option Nat :=
  ((valueOf? name parameter).bind decimal?).filter (· < bound)

theorem valueOf?_self (name : String) (value : List Char) :
    valueOf? name [name.toList, value] = some value := if_pos rfl

theorem octetsOf?_escape (name : String) (b : Fixed 20) :
    octetsOf? name [name.toList, escape b.1] = some b := by
  rw [octetsOf?, valueOf?_self, Option.bind_some, unescape?_escape, Option.bind_some, Bytes.fixed?,
    dif_pos b.2]

theorem numberOf?_numeral {bound n : Nat} (small : n < bound) (name : String) :
    numberOf? bound name [name.toList, numeral n] = some n := by
  rw [numberOf?, valueOf?_self, Option.bind_some, decimal?_numeral, Option.filter_some,
    if_pos (decide_eq_true small)]

namespace Request

variable {r : Request}

def read? (text : List Char) : Option Request :=
  match (Text.splitOn '&' text).map (Text.splitOn '=') with
  | [infoHash, peerId, port, uploaded, downloaded, left, compact] => do
    return {
      infoHash := ← octetsOf? "info_hash" infoHash
      peerId := ← octetsOf? "peer_id" peerId
      port := UInt16.ofNat (← numberOf? UInt16.size "port" port)
      uploaded := UInt64.ofNat (← numberOf? UInt64.size "uploaded" uploaded)
      downloaded := UInt64.ofNat (← numberOf? UInt64.size "downloaded" downloaded)
      left := UInt64.ofNat (← numberOf? UInt64.size "left" left)
      compact := (← numberOf? 2 "compact" compact) == 1 }
  | _ => none

theorem splitOn_written {parameter : String × List Char} (listed : parameter ∈ r.parameters) :
    Text.splitOn '=' (written parameter) = [parameter.1.toList, parameter.2] := by
  have clean : '=' ∉ parameter.1.toList ++ parameter.2 := by
    intro member
    have kind := isParameterChar_of_mem listed member
    revert kind
    decide
  rw [List.mem_append, not_or] at clean
  rw [written, Text.splitOn_append_separator, Text.splitOn_of_notMem clean.1,
    Text.splitOn_of_notMem clean.2]
  rfl

theorem names_and_values (r : Request) :
    (Text.splitOn '&' (joinParameters r.parameters)).map (Text.splitOn '=') =
      r.parameters.map fun parameter => [parameter.1.toList, parameter.2] := by
  rw [splitOn_parameters, List.map_map]
  exact List.map_congr_left fun parameter listed => splitOn_written listed

theorem read?_joinParameters (r : Request) : read? (joinParameters r.parameters) = some r := by
  have compact : ((r.compact.toNat == 1) = r.compact) := by cases r.compact <;> rfl
  rw [read?, names_and_values]
  simp only [parameters, List.map_cons, List.map_nil, octetsOf?_escape,
    numberOf?_numeral r.port.toNat_lt, numberOf?_numeral r.uploaded.toNat_lt,
    numberOf?_numeral r.downloaded.toNat_lt, numberOf?_numeral r.left.toNat_lt,
    numberOf?_numeral r.compact.toNat_lt]
  simp [compact]

/-- Escapes consist of letters, digits and percent signs and are read back as the octets that they
were written for. Behind the announce URL and a separator stand the seven names with their values;
the reader gets the report back from them, and no other report gives the same URL. -/
theorem parameters_read_back :
    (∀ b : Bytes, (∀ c ∈ escape b, c.isAlphanum = true ∨ c = '%') ∧
      unescape? (escape b) = some b) ∧
    ∀ announce, Url.isWebUrl announce = true → ∀ r : Request, ∃ url text,
      r.url? announce = some url ∧
      url.toList = announce.toList ++ separator announce.toList :: text ∧
      (Text.splitOn '&' text).map (Text.splitOn '=') =
        [["info_hash".toList, escape r.infoHash.1], ["peer_id".toList, escape r.peerId.1],
          ["port".toList, numeral r.port.toNat], ["uploaded".toList, numeral r.uploaded.toNat],
          ["downloaded".toList, numeral r.downloaded.toNat], ["left".toList, numeral r.left.toNat],
          ["compact".toList, numeral r.compact.toNat]] ∧
      read? text = some r ∧ ∀ other : Request, other.url? announce = some url → other = r := by
  refine ⟨fun b => ⟨fun c => mem_escape, unescape?_escape b⟩, fun announce accepted r => ?_⟩
  obtain ⟨url, built, characters⟩ := url?_of_accepted accepted r
  refine ⟨url, _, built, characters, names_and_values r, read?_joinParameters r, ?_⟩
  intro other same
  obtain ⟨url', built', characters'⟩ := url?_of_accepted accepted other
  cases same.symm.trans built'
  -- Both texts stand behind the same announce URL and separator.
  have texts : joinParameters other.parameters = joinParameters r.parameters :=
    (List.cons.inj (List.append_cancel_left (characters'.symm.trans characters))).2
  have reports := (read?_joinParameters other).symm.trans (texts ▸ read?_joinParameters r)
  exact Option.some.inj reports

namespace Sample

/-- A report with octets that stand for themselves in no parameter, and with greatest numbers. -/
def outermost : Request where
  infoHash := ⟨Bytes.ofText "%26&=?#+ /:;@%00abcd", by decide +kernel⟩
  peerId := Fixed.fill 20 255
  port := 65535
  uploaded := 18446744073709551615
  downloaded := 18446744073709551615
  left := 0
  compact := false

end Sample

theorem parameters_read_back_sample : Url.isWebUrl "http://t.example/a" = true ∧ ∃ url text,
    Sample.outermost.url? "http://t.example/a" = some url ∧
    url.toList = "http://t.example/a?".toList ++ text ∧
    ((Text.splitOn '&' text).map (Text.splitOn '=')).head? =
      some ["info_hash".toList, "%2526%26%3D%3F%23%2B%20%2F%3A%3B%40%2500abcd".toList] ∧
    read? text = some Sample.outermost ∧
    ∀ other : Request, other.url? "http://t.example/a" = some url → other = Sample.outermost := by
  have accepted : Url.isWebUrl "http://t.example/a" = true := by decide +kernel
  obtain ⟨url, text, built, characters, cut, read, only⟩ :=
    parameters_read_back.2 "http://t.example/a" accepted Sample.outermost
  refine ⟨accepted, url, text, built, characters, ?_, read, only⟩
  rw [cut]
  decide +kernel

end Request

end Swarm.Tracker
