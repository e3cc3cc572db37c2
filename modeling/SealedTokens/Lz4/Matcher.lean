import SealedTokens.Lz4.Plan
/-!
Finding copies: a table remembers, for each hash of a few bytes, where they stood last; the search
takes longer strides the longer it finds nothing.
-/
namespace SealedTokens.Lz4.Matcher

def byteAt (text : ByteArray) (i : Nat) : UInt8 := if h : i < text.size then text[i] else 0

/-- The four bytes at a position as a number, least significant first. -/
def word32 (text : ByteArray) (i : Nat) : UInt32 :=
  (byteAt text i).toUInt32 ||| ((byteAt text (i + 1)).toUInt32 <<< 8) |||
    ((byteAt text (i + 2)).toUInt32 <<< 16) ||| ((byteAt text (i + 3)).toUInt32 <<< 24)

/-- The eight bytes at a position as a number, least significant first. -/
def word64 (text : ByteArray) (i : Nat) : UInt64 :=
  (word32 text i).toUInt64 ||| ((word32 text (i + 4)).toUInt64 <<< 32)

/-- The slot of a position among 4096; long texts hash five bytes, short ones four. -/
def slot (text : ByteArray) (i : Nat) : Nat :=
  if text.size < 65535 then ((word32 text i * 2654435761) >>> 20).toNat
  else (((word64 text i <<< 24) * 889523592379) >>> 52).toNat

/-- The last position of each slot. -/
abbrev Table := Array Nat

/-- A table in which every slot points at the start. -/
def Table.empty : Table := Array.replicate 4096 0

/-- The position a slot points at. -/
def Table.get (table : Table) (i : Nat) : Nat := table[i]?.getD 0

/-- A position from which a text repeats an earlier one. -/
structure Found where
  earlier : Nat
  pos : Nat

/-- Searches from `next` on with strides of `count / 32`; stops twelve bytes before the end. -/
def search (text : ByteArray) : (fuel next count : Nat) → Table → Option Found × Table
  | 0, _, _, table => (none, table)
  | fuel + 1, next, count, table =>
    if next + 12 > text.size then (none, table)
    else
      let i := slot text next
      let earlier := table.get i
      -- The slot is taken over on a hit and on a miss alike.
      let table := table.setIfInBounds i next
      if next - earlier ≤ 65535 && word32 text earlier == word32 text next then
        (some ⟨earlier, next⟩, table)
      else search text fuel (next + count / 32) (count + 1) table

/-- Moves both positions back while the bytes before them agree, not past `floor`. -/
def extendBack (text : ByteArray) (floor : Nat) : (earlier pos : Nat) → Found
  | 0, pos => ⟨0, pos⟩
  | earlier + 1, pos =>
    if pos > floor && byteAt text earlier == byteAt text (pos - 1) then
      extendBack text floor earlier (pos - 1)
    else ⟨earlier + 1, pos⟩

/-- How many bytes agree from two positions on, with the second one staying below `limit`. -/
def agreement (text : ByteArray) (limit : Nat) : (fuel earlier pos count : Nat) → Nat
  | 0, _, _, count => count
  | fuel + 1, earlier, pos, count =>
    if pos < limit && byteAt text earlier == byteAt text pos then
      agreement text limit fuel (earlier + 1) (pos + 1) (count + 1)
    else count

/-- The steps from `next` on when the bytes from `literal` on are not yet covered; `done` holds the
steps before in reverse. -/
def steps (text : ByteArray) : (fuel next literal : Nat) → Table → (done : Plan) → Plan
  | 0, _, _, _, done => done.reverse
  | fuel + 1, next, literal, table, done =>
    match search text text.size next 32 table with
    | (none, _) => done.reverse
    | (some found, table) =>
      let start := extendBack text literal found.earlier found.pos
      let after := start.pos + minMatch
      let extra := agreement text (text.size - 6) text.size (start.earlier + minMatch) after 0
      let stop := after + extra
      -- Of the positions that a copy covers, one is entered.
      let table := table.setIfInBounds (slot text (stop - 2)) (stop - 2)
      let step := ⟨start.pos - literal, start.pos - start.earlier, minMatch + extra⟩
      steps text fuel stop stop table (step :: done)

/-- The plan of a text; a text of fewer than thirteen bytes is all literal. -/
def plan (text : Bytes) : Plan :=
  if text.length < 13 then []
  else
    let packed := text.packed
    steps packed packed.size 1 0 (Table.empty.setIfInBounds (slot packed 0) 0) []

end SealedTokens.Lz4.Matcher
