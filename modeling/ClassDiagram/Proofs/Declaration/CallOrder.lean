import ClassDiagram.Diagram.Build
import Mathlib.Data.List.Basic

/-! Declarations put together by calls. Each call changes one part of a declaration, so that only
the order of calls on the same part counts; of those that set the superclass only the last does.
-/

namespace ClassDiagram.Declaration

-----------------------------------------------------------------------------------------
-- Calls and what they change
-----------------------------------------------------------------------------------------

/-- The parts of a declaration that calls change. -/
inductive Part where
  | properties
  | methods
  | superclass
  | interfaces
  deriving DecidableEq

/-- A call on a class. -/
inductive ClassCall where
  | property (member : Member)
  | method (member : Member)
  | extending (superclass : Supertype)
  | implementing (interface : Supertype)

/-- A call on an interface. -/
inductive InterfaceCall where
  | property (member : Member)
  | method (member : Member)

namespace ClassCall

def part : ClassCall → Part
  | property _ => .properties
  | method _ => .methods
  | extending _ => .superclass
  | implementing _ => .interfaces

def member? : ClassCall → Option Member
  | property member => some member
  | method member => some member
  | _ => none

def supertype? : ClassCall → Option Supertype
  | extending superclass => some superclass
  | implementing interface => some interface
  | _ => none

end ClassCall

namespace InterfaceCall

def part : InterfaceCall → Part
  | property _ => .properties
  | method _ => .methods

def member : InterfaceCall → Member
  | property member => member
  | method member => member

end InterfaceCall

def Class.apply (decl : Class) : ClassCall → Class
  | .property member => decl.addProperty member
  | .method member => decl.addMethod member
  | .extending superclass => decl.extending superclass
  | .implementing interface => decl.implementing interface

def Interface.apply (decl : Interface) : InterfaceCall → Interface
  | .property member => decl.addProperty member
  | .method member => decl.addMethod member

/-- The class after all calls in order. -/
def Class.after (decl : Class) (calls : List ClassCall) : Class :=
  calls.foldl apply decl

/-- The interface after all calls in order. -/
def Interface.after (decl : Interface) (calls : List InterfaceCall) : Interface :=
  calls.foldl apply decl

-----------------------------------------------------------------------------------------
-- Calls that differ in nothing that counts
-----------------------------------------------------------------------------------------

section
variable {Call : Type} (part : Call → Part)

/-- The calls that change a part, in order. -/
def callsOn (changed : Part) (calls : List Call) : List Call :=
  calls.filter (part · = changed)

/-- The two have the same calls on each list in the same order, and the same last call on the
superclass.
-/
structure Agree (left right : List Call) : Prop where
  lists : ∀ list, list ≠ .superclass → callsOn part list left = callsOn part list right
  superclass : (callsOn part .superclass left).getLast? = (callsOn part .superclass right).getLast?

variable {part}

/-- Of two calls on different parts at most one is on a given part. -/
theorem callsOn_swap (changed : Part) (front rest : List Call) {first second : Call}
    (apart : part first ≠ part second)
    : callsOn part changed (front ++ first :: second :: rest)
      = callsOn part changed (front ++ second :: first :: rest) := by
  have other : part first ≠ changed ∨ part second ≠ changed := by
    by_cases same : part first = changed
    · exact .inr fun also => apart (same.trans also.symm)
    · exact .inl same
  rcases other with unseen | unseen <;> simp [callsOn, List.filter_cons, unseen]

theorem agree_swap (front rest : List Call) {first second : Call}
    (apart : part first ≠ part second)
    : Agree part (front ++ first :: second :: rest) (front ++ second :: first :: rest) where
  lists list _ := callsOn_swap list front rest apart
  superclass := congrArg List.getLast? (callsOn_swap .superclass front rest apart)

/-- A call on the superclass counts for nothing before a later one. -/
theorem agree_erase (front middle rest : List Call) {earlier later : Call}
    (overwritten : part earlier = .superclass) (overwriting : part later = .superclass)
    : Agree part (front ++ earlier :: (middle ++ later :: rest))
        (front ++ (middle ++ later :: rest)) where
  lists list other := by
    have unseen : part earlier ≠ list := fun same => other (same.symm.trans overwritten)
    simp [callsOn, List.filter_cons, unseen]
  superclass := by
    simp [callsOn, overwritten, overwriting, List.getLast?_append, List.getLast?_cons]

end

-----------------------------------------------------------------------------------------
-- What calls lead to
-----------------------------------------------------------------------------------------

/-- The class with what the calls on each list add, and with the superclass that is set last. -/
def Class.collected (decl : Class) (calls : List ClassCall) : Class where
  symbol := decl.symbol
  properties :=
    decl.properties ++ (callsOn ClassCall.part .properties calls).filterMap ClassCall.member?
  methods := decl.methods ++ (callsOn ClassCall.part .methods calls).filterMap ClassCall.member?
  superclass :=
    (callsOn ClassCall.part .superclass calls).getLast?.elim decl.superclass ClassCall.supertype?
  interfaces :=
    decl.interfaces ++ (callsOn ClassCall.part .interfaces calls).filterMap ClassCall.supertype?

/-- The interface with what the calls on each list add. -/
def Interface.collected (decl : Interface) (calls : List InterfaceCall) : Interface where
  symbol := decl.symbol
  properties :=
    decl.properties ++ (callsOn InterfaceCall.part .properties calls).map InterfaceCall.member
  methods := decl.methods ++ (callsOn InterfaceCall.part .methods calls).map InterfaceCall.member

/-- A first call adds to its own part only, in front of what later calls on it add. -/
theorem Class.collected_cons (decl : Class) (call : ClassCall) (rest : List ClassCall)
    : decl.collected (call :: rest) = (decl.apply call).collected rest := by
  cases call with
  | property member =>
      simp [collected, apply, addProperty, Body.addProperty, callsOn, ClassCall.part,
        ClassCall.member?]
  | method member =>
      simp [collected, apply, addMethod, Body.addMethod, callsOn, ClassCall.part,
        ClassCall.member?]
  | extending superclass =>
      have last
          : (callsOn ClassCall.part .superclass (.extending superclass :: rest)).getLast?.elim
              decl.superclass ClassCall.supertype?
            = (callsOn ClassCall.part .superclass rest).getLast?.elim (some superclass)
                ClassCall.supertype? := by
        have first
            : callsOn ClassCall.part .superclass (.extending superclass :: rest)
              = .extending superclass :: callsOn ClassCall.part .superclass rest := rfl
        rw [first, List.getLast?_cons]
        cases (callsOn ClassCall.part .superclass rest).getLast? <;> rfl
      rw [collected, last]
      rfl
  | implementing interface =>
      simp [collected, apply, implementing, callsOn, ClassCall.part, ClassCall.supertype?]

theorem Interface.collected_cons (decl : Interface) (call : InterfaceCall)
    (rest : List InterfaceCall)
    : decl.collected (call :: rest) = (decl.apply call).collected rest := by
  cases call with
  | property member =>
      simp [collected, apply, addProperty, Body.addProperty, callsOn, InterfaceCall.part,
        InterfaceCall.member]
  | method member =>
      simp [collected, apply, addMethod, Body.addMethod, callsOn, InterfaceCall.part,
        InterfaceCall.member]

/-- Calls lead to what is collected from them, by induction on the calls. -/
theorem Class.after_eq_collected (decl : Class) (calls : List ClassCall)
    : decl.after calls = decl.collected calls := by
  induction calls generalizing decl with
  | nil => simp [after, collected, callsOn]
  | cons call rest ih =>
      rw [collected_cons, ← ih]
      rfl

theorem Interface.after_eq_collected (decl : Interface) (calls : List InterfaceCall)
    : decl.after calls = decl.collected calls := by
  induction calls generalizing decl with
  | nil => simp [after, collected, callsOn]
  | cons call rest ih =>
      rw [collected_cons, ← ih]
      rfl

theorem Class.after_eq_of_agree (decl : Class) {left right : List ClassCall}
    (agree : Agree ClassCall.part left right)
    : decl.after left = decl.after right := by
  simp only [after_eq_collected, collected, agree.superclass, agree.lists .properties (by decide),
    agree.lists .methods (by decide), agree.lists .interfaces (by decide)]

theorem Interface.after_eq_of_agree (decl : Interface) {left right : List InterfaceCall}
    (agree : Agree InterfaceCall.part left right)
    : decl.after left = decl.after right := by
  simp only [after_eq_collected, collected, agree.lists .properties (by decide),
    agree.lists .methods (by decide)]

-----------------------------------------------------------------------------------------
-- What is drawn of declarations put together by calls
-----------------------------------------------------------------------------------------

/-- Both classes lead to the same node and edges or fail in the same way. -/
def Class.DrawnAlike (policy : Policy) (first second : Class) : Prop :=
  (first.node policy).result = (second.node policy).result
  ∧ (first.edges policy).result = (second.edges policy).result

/-- Calls lead to what each part collects from them. With the same calls on each list and the same
last call on the superclass, declarations are drawn alike or fail alike under any policy, however
the calls are mingled: calls on different parts may be exchanged, and a superclass that is set again
need not be set before. Witness: each call changes the one part it is on.
-/
theorem only_calls_on_same_part_are_ordered (policy : Policy)
    : (∀ (start : Class) calls, start.after calls = start.collected calls)
      ∧ (∀ (start : Class) left right,
          Agree ClassCall.part left right
          → Class.DrawnAlike policy (start.after left) (start.after right))
      ∧ (∀ (start : Interface) left right,
          Agree InterfaceCall.part left right
          → (Interface.node policy (start.after left)).result
              = (Interface.node policy (start.after right)).result)
      ∧ (∀ (start : Class) front rest (first second : ClassCall),
          first.part ≠ second.part
          → Class.DrawnAlike policy (start.after (front ++ first :: second :: rest))
              (start.after (front ++ second :: first :: rest)))
      ∧ ∀ (start : Class) front middle rest earlier later,
          Class.DrawnAlike policy
            (start.after (front ++ .extending earlier :: (middle ++ .extending later :: rest)))
            (start.after (front ++ (middle ++ .extending later :: rest))) := by
  have alike (start : Class) (left right : List ClassCall)
      (agree : Agree ClassCall.part left right)
      : Class.DrawnAlike policy (start.after left) (start.after right) := by
    rw [start.after_eq_of_agree agree]
    exact ⟨rfl, rfl⟩
  refine ⟨Class.after_eq_collected, alike, ?_, ?_, ?_⟩
  · intro start left right agree
    rw [start.after_eq_of_agree agree]
  · intro start front rest first second apart
    exact alike start _ _ (agree_swap front rest apart)
  · intro start front middle rest earlier later
    exact alike start _ _ (agree_erase front middle rest rfl rfl)

/-- A class whose superclass is set twice, its calls made in two ways, is drawn with the later
superclass or rejected for its property, which is looked at before its method. An interface may have
its method first as well.
-/
theorem mingled_calls_are_drawn_alike
    : let start : Class := { symbol := some "A" }
      let name : Member := { symbol := some "name" }
      let left : List ClassCall :=
        [.extending ⟨some "B"⟩, .property name, .method {}, .implementing ⟨some "I"⟩,
          .extending ⟨some "C"⟩, .property {}]
      let right : List ClassCall :=
        [.property name, .extending ⟨some "C"⟩, .property {}, .implementing ⟨some "I"⟩, .method {}]
      let other : Interface := { symbol := some "I" }
      Agree ClassCall.part left right
      ∧ ((start.after left).node .reject).result = ((start.after right).node .reject).result
      ∧ ((start.after right).node .reject).result = .error (.unresolvedSymbol "A" .property)
      ∧ ((start.after left).edges .drop).result = ((start.after right).edges .drop).result
      ∧ ((start.after right).edges .drop).result = .ok [⟨"C", "A"⟩, ⟨"I", "A"⟩]
      ∧ (ClassCall.method name).part ≠ (ClassCall.property name).part
      ∧ Class.DrawnAlike .drop (start.after ([] ++ .method name :: .property name :: left))
          (start.after ([] ++ .property name :: .method name :: left))
      ∧ Agree InterfaceCall.part [.method name, .property {}] [.property {}, .method name]
      ∧ (Interface.node .drop (other.after [.method name, .property {}])).result
        = (Interface.node .drop (other.after [.property {}, .method name])).result := by
  intro start name left right other
  have agree : Agree ClassCall.part left right := by
    refine ⟨?_, rfl⟩
    intro list wanted
    cases list with
    | superclass => exact absurd rfl wanted
    | properties | methods | interfaces => rfl
  have apart : (ClassCall.method name).part ≠ (ClassCall.property name).part := by decide
  have swapped
      : Agree InterfaceCall.part [.method name, .property {}] [.property {}, .method name] :=
    agree_swap [] [] (by decide)
  obtain ⟨-, rejected, -⟩ := only_calls_on_same_part_are_ordered .reject
  obtain ⟨-, dropped, interfaces, exchanged, -⟩ := only_calls_on_same_part_are_ordered .drop
  exact ⟨agree, (rejected start left right agree).1, rfl, (dropped start left right agree).2, rfl,
    apart, exchanged start [] left _ _ apart, swapped, interfaces other _ _ swapped⟩

end ClassDiagram.Declaration
