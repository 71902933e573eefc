/-! # Random numbers

    A generator keeps the last 31 numbers and adds two of them for the next one.
    The same seed gives the same numbers. -/

namespace GuardedCnf.Utility.Awk

/-- A generator of random numbers. -/
structure Random where
  /-- The last numbers, in a ring. -/
  ring : Array UInt32
  /-- The place that changes next. -/
  place : Nat

namespace Random

/-- How many numbers are kept. -/
def size : Nat := 31

/-- The distance between the numbers that are added. -/
def distance : Nat := 3

/-- The number after one in a simple sequence. -/
def following (n : Int) : Int :=
  let word := 16807 * (n.tmod 127773) - 2836 * (n.tdiv 127773)
  if word < 0 then word + 2147483647 else word

/-- Adds two numbers and gives the sum without its last bit. -/
def next (r : Random) : Nat × Random :=
  let sum := r.ring.getD r.place 0 + r.ring.getD ((r.place + size - distance) % size) 0
  ((sum >>> 1).toNat, ⟨r.ring.setIfInBounds r.place sum, (r.place + 1) % size⟩)

/-- The generator of a seed, after its first numbers. -/
def ofSeed (seed : Int) : Random :=
  let first : Int := if seed = 0 then 1 else seed
  let numbers := (List.range (size - 1)).foldl
    (fun (ns, n) _ => (ns.push (following n), following n)) (#[first], first)
  let start : Random := ⟨numbers.1.map fun n => UInt32.ofNat (n.emod 4294967296).toNat, distance⟩
  (List.range (10 * size)).foldl (fun r _ => r.next.2) start

/-- The next number between 0 and 1. -/
def fraction (r : Random) : Float × Random :=
  let (n, r) := r.next
  (n.toFloat / 2147483647.0, r)

end Random

end GuardedCnf.Utility.Awk
