import BraceScript.Regex.Expr

namespace BraceScript.Regex

open Unicode (CharSet)

/-- An instruction. Where two instructions may come next, the first is preferred. -/
inductive Instruction where
  | read (s : CharSet) (next : Nat)
  | look (l : Look) (next : Nat)
  | mark (slot : Nat) (next : Nat)
  | fork (first second : Nat)
  | done

abbrev Code := Array Instruction

/-- A way to put instructions in front of the one at `next`: the place where they start, and the
code with them. -/
abbrev Emitter := (next : Nat) → Code → Nat × Code

namespace Emitter

def push (i : Instruction) (code : Code) : Nat × Code := (code.size, code.push i)

def fork (greedy : Bool) (sub next : Nat) : Instruction :=
  if greedy then .fork sub next else .fork next sub

def exactly (sub : Emitter) : (count : Nat) → Emitter
  | 0, next, code => (next, code)
  | count + 1, next, code =>
    let (next, code) := exactly sub count next code
    sub next code

/-- `sub` at most as often as `count` says. Leaving is possible before every round. -/
def upTo (greedy : Bool) (sub : Emitter) : (count : Nat) → Emitter
  | 0, next, code => (next, code)
  | count + 1, next, code =>
    let (more, code) := upTo greedy sub count next code
    let (start, code) := sub more code
    push (fork greedy start next) code

/-- `sub` once or more. The fork behind `sub` takes its place before `sub`, which leads to it. -/
def onceOrMore (greedy : Bool) (sub : Emitter) : Emitter := fun next code ↦
  let (back, code) := push .done code
  let (start, code) := sub back code
  (start, code.setIfInBounds back (fork greedy start next))

/-- `sub` any number of times. When `sub` matches the empty text, the first round is set apart, so
that the preference between rounds stays right. -/
def anyNumber (greedy nullable : Bool) (sub : Emitter) : Emitter := fun next code ↦
  if nullable then
    let (start, code) := onceOrMore greedy sub next code
    push (fork greedy start next) code
  else
    let (back, code) := push .done code
    let (start, code) := sub back code
    (back, code.setIfInBounds back (fork greedy start next))

def iterate (least : Nat) (most : Option Nat) (greedy nullable : Bool) (sub : Emitter) : Emitter :=
  fun next code ↦
    match least, most with
    | 0, none => anyNumber greedy nullable sub next code
    | least + 1, none =>
      let (next, code) := onceOrMore greedy sub next code
      exactly sub least next code
    | least, some most =>
      let (next, code) := upTo greedy sub (most - least) next code
      exactly sub least next code

end Emitter

namespace Expr

mutual
def emit : Expr → Emitter
  | empty => fun next code ↦ (next, code)
  | chars s => fun next code ↦ Emitter.push (.read s next) code
  | look l => fun next code ↦ Emitter.push (.look l next) code
  | iterate least most greedy sub =>
    Emitter.iterate least most greedy sub.nullable sub.emit
  | capture index sub => fun next code ↦
    let (next, code) := Emitter.push (.mark (2 * index + 1) next) code
    let (next, code) := sub.emit next code
    Emitter.push (.mark (2 * index) next) code
  | sequence parts => emitSequence parts
  | choice branches => emitChoice branches

def emitSequence : List Expr → Emitter
  | [] => fun next code ↦ (next, code)
  | part :: parts => fun next code ↦
    let (next, code) := emitSequence parts next code
    part.emit next code

def emitChoice : List Expr → Emitter
  | [] => fun next code ↦ Emitter.push (.read .empty next) code
  | branch :: branches => fun next code ↦
    let (second, code) := emitChoice branches next code
    let (first, code) := branch.emit next code
    Emitter.push (.fork first second) code
end

end Expr

structure Program where
  code : Code
  start : Nat

def Expr.compile (e : Expr) : Program :=
  let (finish, code) := Emitter.push .done #[]
  let (start, code) := (capture 0 e).emit finish code
  ⟨code, start⟩

end BraceScript.Regex
