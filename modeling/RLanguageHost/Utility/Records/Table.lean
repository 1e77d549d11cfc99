import RLanguageHost.Utility.Records.Value
import Std.Data.HashMap

/-!
# Arrays of records

An array maps keys to values. A loop over an array goes through buckets of keys: which bucket a key
is in follows from its characters, and within a bucket the key that was used last comes first.

An array whose keys have all been numbers keeps them in buckets by number, until a key is a text or
a loop goes over it; then they move to the others, bucket after bucket.
-/

namespace RLanguageHost.Utility.Records

inductive Key where
  | text (s : String)
  | whole (n : Int)
  deriving Repr, Inhabited

structure Entry where
  value : Value := .unset
  /-- When the key was used last. -/
  used : Nat
  /-- The number that the key is. -/
  number : Option Int := none
  deriving Repr, Inhabited

structure Table where
  entries : Std.HashMap String Entry := {}
  /-- Counts the uses of keys. -/
  time : Nat := 0
  /-- Whether all keys have been numbers. -/
  isNumbered : Bool := true
  deriving Inhabited

namespace Table

/-- The bucket of a text among so many. -/
def bucketOf (count : Nat) (s : String) : Nat :=
  s.toList.foldl (fun h c => h.xor c.toNat * 16777619 % 4294967296) 2166136261 % count

/-- The bucket of a number among so many. -/
def numberBucket (count : Nat) (n : Int) : Nat :=
  (n % count).toNat

/-- The number of the buckets of an array with so many keys. -/
def bucketCount : (fuel : Nat) → (count : Nat) → (keys : Nat) → Nat
  | 0, count, _ => count
  | fuel + 1, count, keys =>
    if 12 * count < keys then bucketCount fuel (2 * count) keys else count

def size (t : Table) : Nat :=
  bucketCount 40 64 t.entries.size

/-- The keys of an array of numbers in the order in which they move: by bucket, and in a bucket the
one that was used last first. -/
def inOrder (t : Table) (bucket : String → Entry → Nat) : List (String × Entry) :=
  t.entries.toList.mergeSort fun a b =>
    let i := bucket a.1 a.2
    let j := bucket b.1 b.2
    i < j || (i = j && b.2.used ≤ a.2.used)

/-- Moves the keys of an array of numbers to the buckets of texts. -/
def named (t : Table) : Table :=
  if t.isNumbered then
    let keys := t.inOrder fun _ e => numberBucket t.size (e.number.getD 0)
    let (entries, time) := keys.foldl (fun (entries, time) (k, e) =>
      (entries.insert k { e with used := time + 1 }, time + 1))
      (({} : Std.HashMap String Entry), 0)
    { entries, time, isNumbered := false }
  else t

def textOf : Key → String
  | .text s => s
  | .whole n => toString n

def readyFor (t : Table) : Key → Table
  | .text _ => t.named
  | .whole _ => t

def has (t : Table) (k : Key) : Bool :=
  t.entries.contains (textOf k)

/-- An array after a key was used, with what it has for the key. -/
def use (t : Table) (k : Key) : Value × Table :=
  let t := t.readyFor k
  let s := textOf k
  let number : Option Int := match k with | .whole n => some n | .text _ => none
  let e := t.entries[s]?
  let value := (e.map (·.value)).getD .unset
  -- a number that is known as such keeps its place among the texts
  let stays := !t.isNumbered && number.isSome && e.any (·.number.isSome)
  let used := if stays then (e.map (·.used)).getD 0 else t.time + 1
  let entry := { value, used, number := number.or (e.bind (·.number)) }
  (value, { t with entries := t.entries.insert s entry, time := t.time + 1 })

def put (t : Table) (k : Key) (value : Value) : Table :=
  let (_, t) := t.use k
  let s := textOf k
  { t with entries := t.entries.modify s fun e => { e with value } }

def drop (t : Table) (k : Key) : Table :=
  let t := t.readyFor k
  { t with entries := t.entries.erase (textOf k) }

/-- The keys of an array in the order of a loop, and the array after it. -/
def keys (t : Table) : List String × Table :=
  let t := t.named
  ((t.inOrder fun k _ => bucketOf t.size k).map (·.1), t)

/-- An array with values for the numbers from one on. -/
def ofValues (vs : List Value) : Table :=
  (vs.foldl (fun (t, n) v => (t.put (.whole n) v, n + 1)) (({} : Table), (1 : Int))).1

end Table

end RLanguageHost.Utility.Records
