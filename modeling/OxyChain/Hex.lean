import Mathlib

/-! # Addresses and amounts written as text

The go-ethereum and `math/big` helpers the node calls on transaction fields:
`common.IsHexAddress`, `common.HexToAddress`, `(*big.Int).SetString(s, 10)` and the
`int64` conversions. An address is the number its 20 bytes spell, big-endian.
-/

namespace OxyChain

abbrev Address := Nat

def has0xPrefix : List Char → Bool
  | '0' :: c :: _ => c == 'x' || c == 'X'
  | _ => false

def isHexCharacter (c : Char) : Bool :=
  ('0' ≤ c && c ≤ '9') || ('a' ≤ c && c ≤ 'f') || ('A' ≤ c && c ≤ 'F')

def isHex (s : List Char) : Bool := s.length % 2 == 0 && s.all isHexCharacter

def dropHexPrefix (s : List Char) : List Char := if has0xPrefix s then s.drop 2 else s

def isHexAddress (s : String) : Bool :=
  let t := dropHexPrefix s.data
  t.length == 40 && isHex t

def hexValue (c : Char) : Option Nat :=
  if '0' ≤ c ∧ c ≤ '9' then some (c.toNat - '0'.toNat)
  else if 'a' ≤ c ∧ c ≤ 'f' then some (c.toNat - 'a'.toNat + 10)
  else if 'A' ≤ c ∧ c ≤ 'F' then some (c.toNat - 'A'.toNat + 10)
  else none

def decodeHexPairs : List Char → List Nat
  | a :: b :: rest =>
    match hexValue a, hexValue b with
    | some x, some y => (16 * x + y) :: decodeHexPairs rest
    | _, _ => []
  | _ => []

/-- `common.HexToAddress`: `FromHex` (odd length padded with a leading `0`), then the last
20 bytes. -/
def hexToAddress (s : String) : Address :=
  let t := dropHexPrefix s.data
  let t := if t.length % 2 = 1 then '0' :: t else t
  (decodeHexPairs t).foldl (fun acc b => acc * 256 + b) 0 % 2 ^ 160

def hexDigit (n : Nat) : Char := if n < 10 then Char.ofNat (48 + n) else Char.ofNat (87 + n)

/-- `common.Hash.Hex()`: `0x`, then the hash's 32 bytes, big-endian, as 64 hex digits. -/
def hashHex (h : Nat) : String :=
  ⟨'0' :: 'x' :: (List.range 64).reverse.map fun i => hexDigit (h / 16 ^ i % 16)⟩

example : hashHex 0xab = "0x00000000000000000000000000000000000000000000000000000000000000ab" := by
  decide

def parseDigits (ds : List Char) : Option Nat :=
  if ds ≠ [] ∧ ds.all Char.isDigit then
    some (ds.foldl (fun n c => 10 * n + (c.toNat - '0'.toNat)) 0)
  else none

def setString (s : String) : Option Int :=
  match s.data with
  | '-' :: ds => (parseDigits ds).map fun n => -(n : Int)
  | '+' :: ds => (parseDigits ds).map fun n => (n : Int)
  | ds => (parseDigits ds).map fun n => (n : Int)

/-! ## `strings` -/

def trimPrefix (s pre : String) : String :=
  if pre.data.isPrefixOf s.data then ⟨s.data.drop pre.length⟩ else s

def hasSuffix (s suf : String) : Bool := suf.data.isSuffixOf s.data

def trimSuffix (s suf : String) : String :=
  if hasSuffix s suf then ⟨s.data.take (s.length - suf.length)⟩ else s

@[simp] theorem trimPrefix_append (pre s : String) : trimPrefix (pre ++ s) pre = s := by
  rw [trimPrefix, if_pos (by simp [String.data_append])]
  exact String.ext (by rw [String.data_append]; exact List.drop_left' rfl)

/-- A value brought to 64-bit two's complement: `int64(x)` for a `uint64`, and
`(*big.Int).Int64`. -/
def toInt64 (x : Int) : Int := x.bmod (2 ^ 64)

theorem toInt64_eq_self {x : Int} (h₁ : -2 ^ 63 ≤ x) (h₂ : x < 2 ^ 63) : toInt64 x = x := by
  rw [toInt64, Int.bmod_def]
  simp only [Nat.cast_pow, Nat.cast_ofNat]
  split_ifs <;> omega

theorem toInt64_of_lt {x : Int} (h0 : 0 ≤ x) (h : x < 2 ^ 63) : toInt64 x = x :=
  toInt64_eq_self (by omega) h

example : setString "-42" = some (-42) := by decide
example : isHexAddress "0x00000000000000000000000000000000000000fF" = true := by decide
example : trimSuffix (trimPrefix "/api/v1/accounts/0x01/fund" "/api/v1/accounts/") "/fund" = "0x01" := by
  decide

end OxyChain
