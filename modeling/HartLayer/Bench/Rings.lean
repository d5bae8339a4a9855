import HartLayer.Ring
import HartLayer.Word

/-!
# Trying out rings

Steps on one ring of words.
-/

namespace HartLayer.Bench

inductive RingStep where
  | push (w : Word)
  /-- Pushes the words from `a` up to, but not including, `b`. -/
  | pushRange (a b : Nat)
  | clear
  | look
  | describe
  | describeLines
  /-- The first items, at most `k` of them. -/
  | take (k : Nat)
  /-- Walks through all items and then asks for two more. -/
  | walkPastEnd

/-- What can be seen of a ring. -/
structure RingView where
  size : Nat
  isEmpty : Bool
  back : Option Word
  items : List Word

inductive RingReply where
  | view (v : RingView)
  | text (s : String)
  | items (ws : List Word)
  | ended (walked : Nat) (next nextButOne : Option Word)

def RingView.ofRing {n : Nat} (r : Ring Word n) : RingView :=
  ⟨r.size, r.isEmpty, r.back?, r.toList⟩

/-- Pushes so many consecutive words, from `w` on. -/
def pushWords {n : Nat} (r : Ring Word n) (w : Word) : Nat → Ring Word n
  | 0 => r
  | k + 1 => pushWords (r.push w) (w + 1) k

def RingStep.perform {n : Nat} (r : Ring Word n) : RingStep → RingReply × Ring Word n
  | push w => seen (r.push w)
  | pushRange a b => seen (pushWords r a.toUInt64 (b - a))
  | clear => seen .empty
  | look => seen r
  | describe => (.text (r.describe Word.decimal), r)
  | describeLines => (.text (r.describeLines Word.decimal), r)
  | take k => (.items (r.toList.take k), r)
  | walkPastEnd =>
    let walked := r.toList.length
    let (next, c) := (r.cursor.skip walked).next
    (.ended walked next c.next.1, r)
where
  seen (r : Ring Word n) : RingReply × Ring Word n := (.view (.ofRing r), r)

def playRing (n : Nat) (steps : List RingStep) : List RingReply :=
  let played : StateM (Ring Word n) (List RingReply) :=
    steps.mapM fun s => modifyGet fun r => s.perform r
  (played.run .empty).1

end HartLayer.Bench
