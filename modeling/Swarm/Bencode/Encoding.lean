import Swarm.Bencode.Value
import Swarm.Text.Decimal

/-!
The written form of a bencode value: integers without superfluous zeros, strings behind their
length, dictionary entries in the order in which the value holds them.
-/

namespace Swarm.Bencode

def encodeBytes (b : Bytes) : Bytes := Decimal.numeral b.length ++ 58 :: b

mutual

def Value.encode : Value → Bytes
  | .integer n => 105 :: (Decimal.signedNumeral n ++ [101])
  | .bytes b => encodeBytes b
  | .list items => 108 :: (encodeItems items ++ [101])
  | .dict entries => 100 :: (encodeEntries entries ++ [101])

def encodeItems : List Value → Bytes
  | [] => []
  | v :: rest => v.encode ++ encodeItems rest

def encodeEntries : List (Bytes × Value) → Bytes
  | [] => []
  | (key, v) :: rest => encodeBytes key ++ (v.encode ++ encodeEntries rest)

end

def Value.encodeAfter (front : Bytes) (v : Value) : Bytes := front ++ v.encode

end Swarm.Bencode
