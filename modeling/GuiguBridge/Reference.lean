import GuiguBridge.Externals
import GuiguBridge.Lib.Rfc3339

/-!
# The crates, computed

One instance of `Externals` that can be evaluated, for the concrete runs of this development.
On the texts the bridge itself writes it computes what the crates do; of the looser spellings
a crate also reads (a UUID in braces, a fraction in a JSON number) it takes fewer.

* `sha1`, `newV5` — name-based identities; `sha256` — content hashes;
* `addDuration` — `chrono`'s addition, in and out of a leap second;
* `reference` — the instance.
-/

namespace GuiguBridge

namespace Reference

/-! ### Name-based identities -/

def word (n : Nat) : Nat := n % 2 ^ 32

def rotateLeft (n k : Nat) : Nat := word (n <<< k) ||| (n >>> (32 - k))

/-- The bytes of a word list, most significant first. -/
def toBytes : Nat → Nat → List Nat
  | 0, _ => []
  | w + 1, n => toBytes w (n / 256) ++ [n % 256]

def ofBytes (bytes : List Nat) : Nat := bytes.foldl (fun acc b => 256 * acc + b) 0

/-- The message with its end mark, filled up with zeros, and its length in bits. -/
def padMessage (message : List Nat) : List Nat :=
  message ++ 128 :: List.replicate ((119 - message.length % 64) % 64) 0 ++
    toBytes 8 (8 * message.length)

def chunks : Nat → Nat → List Nat → List (List Nat)
  | 0, _, _ => []
  | count + 1, size, xs => xs.take size :: chunks count size (xs.drop size)

/-- The eighty words of a block, newest first. -/
def schedule : Nat → List Nat → List Nat
  | 0, ws => ws
  | n + 1, ws =>
    schedule n (rotateLeft (ws.getD 2 0 ^^^ ws.getD 7 0 ^^^ ws.getD 13 0 ^^^ ws.getD 15 0) 1 :: ws)

structure Digest where
  a : Nat
  b : Nat
  c : Nat
  d : Nat
  e : Nat

def roundFunction (i : Nat) (h : Digest) : Nat × Nat :=
  if i < 20 then ((h.b &&& h.c) ||| (word (h.b ^^^ (2 ^ 32 - 1)) &&& h.d), 0x5a827999)
  else if i < 40 then (h.b ^^^ h.c ^^^ h.d, 0x6ed9eba1)
  else if i < 60 then ((h.b &&& h.c) ||| (h.b &&& h.d) ||| (h.c &&& h.d), 0x8f1bbcdc)
  else (h.b ^^^ h.c ^^^ h.d, 0xca62c1d6)

def rounds : Nat → List Nat → Digest → Digest
  | _, [], h => h
  | i, w :: ws, h =>
    let (f, k) := roundFunction i h
    rounds (i + 1) ws
      { a := word (rotateLeft h.a 5 + f + h.e + k + w), b := h.a, c := rotateLeft h.b 30,
        d := h.c, e := h.d }

def block (h : Digest) (bytes : List Nat) : Digest :=
  let first := (chunks 16 4 bytes).map ofBytes
  let r := rounds 0 (schedule 64 first.reverse).reverse h
  { a := word (h.a + r.a), b := word (h.b + r.b), c := word (h.c + r.c),
    d := word (h.d + r.d), e := word (h.e + r.e) }

/-- SHA-1 of a byte string. -/
def sha1 (message : List Nat) : List Nat :=
  let padded := padMessage message
  let h := (chunks (padded.length / 64) 64 padded).foldl block
    ⟨0x67452301, 0xefcdab89, 0x98badcfe, 0x10325476, 0xc3d2e1f0⟩
  [h.a, h.b, h.c, h.d, h.e].flatMap (toBytes 4)

/-- The first sixteen bytes of the digest, with version and variant set. -/
def newV5OfBytes (space : Uuid) (name : List Nat) : Uuid :=
  let hash := (sha1 (toBytes 16 space.toNat ++ name)).take 16
  BitVec.ofNat 128 (ofBytes (hash.mapIdx fun i b =>
    if i = 6 then b % 16 + 80 else if i = 8 then b % 64 + 128 else b))

def newV5 (space : Uuid) (name : String) : Uuid :=
  newV5OfBytes space (name.toUTF8.toList.map (·.toNat))

/-! ### Content hashes -/

/-- The round constants of SHA-256. -/
def roundWords : List Nat :=
  [0x428a2f98, 0x71374491, 0xb5c0fbcf, 0xe9b5dba5, 0x3956c25b, 0x59f111f1,
   0x923f82a4, 0xab1c5ed5, 0xd807aa98, 0x12835b01, 0x243185be, 0x550c7dc3,
   0x72be5d74, 0x80deb1fe, 0x9bdc06a7, 0xc19bf174, 0xe49b69c1, 0xefbe4786,
   0x0fc19dc6, 0x240ca1cc, 0x2de92c6f, 0x4a7484aa, 0x5cb0a9dc, 0x76f988da,
   0x983e5152, 0xa831c66d, 0xb00327c8, 0xbf597fc7, 0xc6e00bf3, 0xd5a79147,
   0x06ca6351, 0x14292967, 0x27b70a85, 0x2e1b2138, 0x4d2c6dfc, 0x53380d13,
   0x650a7354, 0x766a0abb, 0x81c2c92e, 0x92722c85, 0xa2bfe8a1, 0xa81a664b,
   0xc24b8b70, 0xc76c51a3, 0xd192e819, 0xd6990624, 0xf40e3585, 0x106aa070,
   0x19a4c116, 0x1e376c08, 0x2748774c, 0x34b0bcb5, 0x391c0cb3, 0x4ed8aa4a,
   0x5b9cca4f, 0x682e6ff3, 0x748f82ee, 0x78a5636f, 0x84c87814, 0x8cc70208,
   0x90befffa, 0xa4506ceb, 0xbef9a3f7, 0xc67178f2]

def rotateRight (n k : Nat) : Nat := rotateLeft n (32 - k)

/-- The sixty-four words of a block, newest first. -/
def schedule256 : Nat → List Nat → List Nat
  | 0, ws => ws
  | n + 1, ws =>
    let v := ws.getD 14 0
    let w := ws.getD 1 0
    schedule256 n (word (ws.getD 15 0 + (rotateRight v 7 ^^^ rotateRight v 18 ^^^ v >>> 3) +
      ws.getD 6 0 + (rotateRight w 17 ^^^ rotateRight w 19 ^^^ w >>> 10)) :: ws)

/-- One round on the eight working words. -/
def round256 (h : List Nat) (kw : Nat × Nat) : List Nat :=
  match h with
  | [a, b, c, d, e, f, g, i] =>
    let t := i + (rotateRight e 6 ^^^ rotateRight e 11 ^^^ rotateRight e 25) +
      ((e &&& f) ^^^ (word (e ^^^ (2 ^ 32 - 1)) &&& g)) + kw.1 + kw.2
    let u := (rotateRight a 2 ^^^ rotateRight a 13 ^^^ rotateRight a 22) +
      ((a &&& b) ^^^ (a &&& c) ^^^ (b &&& c))
    [word (t + u), a, b, c, word (d + t), e, f, g]
  | _ => h

def block256 (h : List Nat) (bytes : List Nat) : List Nat :=
  let first := (chunks 16 4 bytes).map ofBytes
  let words := (schedule256 48 first.reverse).reverse
  List.zipWith (fun x y => word (x + y)) h ((roundWords.zip words).foldl round256 h)

/-- SHA-256 of a byte string. -/
def sha256 (message : List Nat) : List Nat :=
  let padded := padMessage message
  let h := (chunks (padded.length / 64) 64 padded).foldl block256
    [0x6a09e667, 0xbb67ae85, 0x3c6ef372, 0xa54ff53a,
     0x510e527f, 0x9b05688c, 0x1f83d9ab, 0x5be0cd19]
  h.flatMap (toBytes 4)

/-! ### Texts of identities -/

def hexDigits : Nat → Nat → List Char
  | 0, _ => []
  | w + 1, n => hexDigits w (n / 16) ++ [Json.hexChar (n % 16)]

/-- Bytes as lower-case hexadecimal text. -/
def hexText (bytes : List Nat) : String := String.ofList (bytes.flatMap (hexDigits 2))

def uuidText (u : Uuid) : String :=
  let n := u.toNat
  String.ofList (hexDigits 8 (n / 16 ^ 24) ++ '-' :: hexDigits 4 (n / 16 ^ 20) ++
    '-' :: hexDigits 4 (n / 16 ^ 16) ++ '-' :: hexDigits 4 (n / 16 ^ 12) ++
    '-' :: hexDigits 12 n)

def readHex : Nat → Nat → List Char → Option (Nat × List Char)
  | 0, acc, cs => some (acc, cs)
  | _ + 1, _, [] => none
  | w + 1, acc, c :: cs => (Json.hexVal c).bind fun d => readHex w (16 * acc + d) cs

def parseUuid (text : String) : Option Uuid := do
  let (a, cs) ← readHex 8 0 text.toList
  let (a, cs) ← readHex 4 a (← Rfc3339.readChar '-' cs)
  let (a, cs) ← readHex 4 a (← Rfc3339.readChar '-' cs)
  let (a, cs) ← readHex 4 a (← Rfc3339.readChar '-' cs)
  let (a, cs) ← readHex 12 a (← Rfc3339.readChar '-' cs)
  if cs = [] then some (BitVec.ofNat 128 a) else none

/-! ### Instants -/

def ofParts (v : Int × Nat) : Option DateTime :=
  if h : v.2 < 2000000000 ∧ (1000000000 ≤ v.2 → v.1 % 60 = 59) then
    some ⟨v.1, v.2, h.1, h.2⟩
  else none

/-- The last second `chrono` can name. -/
def maxSecs : Int := (⟨262142, 12, 31⟩ : Rfc3339.Date).toDays * 86400 + 86399

/-- The sum as seconds and fraction; a leap second is left with the next second. -/
def addParts (t : DateTime) (d : Duration) : Int × Nat :=
  let s := d / 1000000000
  let n := d % 1000000000
  if t.frac < 1000000000 then
    (t.secs + s + (t.frac + n) / 1000000000, (t.frac + n) % 1000000000)
  else if s = 0 ∧ t.frac + n < 2000000000 then (t.secs, t.frac + n)
  else
    (t.secs + s + (t.frac - 1000000000 + n) / 1000000000, (t.frac - 1000000000 + n) % 1000000000)

def addDuration (t : DateTime) (d : Duration) : Option DateTime :=
  -- the longest `chrono` duration is `i64::MAX` milliseconds
  if d ≤ 9223372036854775807000000 ∧ (addParts t d).1 ≤ maxSecs then ofParts (addParts t d)
  else none

/-- The two modifiers that the bridge uses, in seconds. -/
def modifierSecs (modifier : String) : Option Int :=
  if modifier = "-7 days" then some (-604800)
  else if modifier = "-900 seconds" then some (-900)
  else none

/-- `YYYY-MM-DD HH:MM:SS`: whole seconds, UTC, and no zone. -/
def datetimeText (secs : Int) : String :=
  let date := Rfc3339.ofDays (secs / 86400)
  let time := (secs % 86400).toNat
  String.ofList (Rfc3339.digits 4 date.year.toNat ++ '-' :: Rfc3339.digits 2 date.month ++
    '-' :: Rfc3339.digits 2 date.day ++ ' ' :: Rfc3339.digits 2 (time / 3600) ++
    ':' :: Rfc3339.digits 2 (time / 60 % 60) ++ ':' :: Rfc3339.digits 2 (time % 60))

def sqliteDatetime (text modifier : String) : Option String := do
  let (secs, _) ← Rfc3339.parseStrict text.toList
  let shift ← modifierSecs modifier
  if Rfc3339.FourDigitYear (secs + shift) then some (datetimeText (secs + shift)) else none

/-- The crates of the bridge. -/
instance reference : Externals where
  rfc3339Nanos t := String.ofList (Rfc3339.render .nanos .zulu t.secs t.frac)
  toRfc3339 t := String.ofList (Rfc3339.render .auto .offset t.secs t.frac)
  parseDateTime text := (Rfc3339.parseRelaxed text.toList).bind ofParts
  parseFromRfc3339 text := (Rfc3339.parseStrict text.toList).bind ofParts
  serdeDateTime t := String.ofList (Rfc3339.render .auto .zulu t.secs t.frac)
  checkedAdd := addDuration
  newV5 := newV5
  newV5OfUuid space name := newV5OfBytes space (toBytes 16 name.toNat)
  uuidText := uuidText
  parseUuid := parseUuid
  sqlErrorText := "error returned from database: (code: 2067) UNIQUE constraint failed"
  sqliteDatetime := sqliteDatetime
  jsonText v := String.ofList v.render
  parseJson text := Json.parse text.toList

end Reference

end GuiguBridge
