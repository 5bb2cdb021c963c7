/-!
# A seeded stream of 32-bit words

The noise gradients are drawn from the ChaCha stream cipher with twelve rounds, used as a
deterministic generator: a 256-bit key, a 64-bit block counter starting at zero, and a zero
nonce. The key is expanded from a 64-bit seed by eight steps of the PCG32 generator (multiply,
add, xorshift, data-dependent rotation), one key word per step.

Words are taken from consecutive blocks in order. A float in `[low, high)` is drawn from one word:
its top 23 bits fill the significand of a value in `[1, 2)`, which is shifted to `[0, 1)`, scaled
and offset; a draw that lands on `high` is discarded and the next word is used.
-/

namespace NodeGraph
namespace Noise

/-- Rotates a word left by `n` bits (`0 < n < 32`). -/
def rotl (x : UInt32) (n : UInt32) : UInt32 := (x <<< n) ||| (x >>> (32 - n))

/-- The ChaCha quarter round on four positions of the state. -/
def quarterRound (s : Array UInt32) (a b c d : Nat) : Array UInt32 :=
  let va := s.getD a 0 + s.getD b 0
  let vd := rotl (s.getD d 0 ^^^ va) 16
  let vc := s.getD c 0 + vd
  let vb := rotl (s.getD b 0 ^^^ vc) 12
  let va := va + vb
  let vd := rotl (vd ^^^ va) 8
  let vc := vc + vd
  let vb := rotl (vb ^^^ vc) 7
  ((s.setIfInBounds a va).setIfInBounds b vb |>.setIfInBounds c vc).setIfInBounds d vd

/-- One column round followed by one diagonal round. -/
def doubleRound (s : Array UInt32) : Array UInt32 :=
  let s := quarterRound s 0 4 8 12
  let s := quarterRound s 1 5 9 13
  let s := quarterRound s 2 6 10 14
  let s := quarterRound s 3 7 11 15
  let s := quarterRound s 0 5 10 15
  let s := quarterRound s 1 6 11 12
  let s := quarterRound s 2 7 8 13
  quarterRound s 3 4 9 14

/-- Applies `f` to `x` `n` times. -/
def iterate {α : Type} (f : α → α) : Nat → α → α
  | 0, x => x
  | n + 1, x => iterate f n (f x)

/-- The sixteen output words of the block with the given counter, under a key of eight words,
after twelve rounds. -/
def block (key : Array UInt32) (counter : UInt64) : Array UInt32 :=
  let init : Array UInt32 :=
    (#[0x61707865, 0x3320646e, 0x79622d32, 0x6b206574] : Array UInt32) ++ key ++
      #[counter.toUInt32, (counter >>> 32).toUInt32, 0, 0]
  let mixed := iterate doubleRound 6 init
  Array.zipWith (· + ·) mixed init

/-- A position in the word stream of a key. -/
structure Stream where
  key : Array UInt32
  counter : UInt64
  buffer : Array UInt32
  pos : Nat

namespace Stream

/-- The stream of a key, before its first word. -/
def ofKey (key : Array UInt32) : Stream := ⟨key, 0, #[], 0⟩

/-- The next word of the stream, refilling from the next block when the current one is used up. -/
def next (s : Stream) : UInt32 × Stream :=
  if h : s.pos < s.buffer.size then (s.buffer[s.pos], { s with pos := s.pos + 1 })
  else
    let buf := block s.key s.counter
    (buf.getD 0 0, { s with counter := s.counter + 1, buffer := buf, pos := 1 })

end Stream

/-- One step of PCG32: the advanced state and the output word. -/
def pcgStep (state : UInt64) : UInt64 × UInt32 :=
  let state := state * 6364136223846793005 + 11634580027462260723
  let xorshifted := (((state >>> 18) ^^^ state) >>> 27).toUInt32
  let rot := (state >>> 59).toUInt32
  let x := (xorshifted >>> rot) ||| (xorshifted <<< ((32 - rot) % 32))
  (state, x)

/-- The eight key words expanded from a 64-bit seed. -/
def keyOfSeed (seed : UInt64) : Array UInt32 :=
  let step (acc : UInt64 × Array UInt32) : UInt64 × Array UInt32 :=
    let (st, x) := pcgStep acc.1
    (st, acc.2.push x)
  (iterate step 8 (seed, #[])).2

/-- A float in `[low, high)` from the next word (or words) of the stream: the word's top 23 bits
give a value in `[0, 1)`, which is scaled by `high - low` and offset by `low`. -/
def drawBelow (fuel : Nat) (low high : Float32) (s : Stream) : Float32 × Stream :=
  let (w, s) := s.next
  let unit := Float32.ofBits ((w >>> 9) ||| 0x3F800000) - 1
  let res := unit * (high - low) + low
  match fuel with
  | 0 => (res, s)
  | fuel + 1 => if res < high then (res, s) else drawBelow fuel low high s

end Noise
end NodeGraph
