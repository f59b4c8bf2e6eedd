import BeaconSentry.Json.Reader
import BeaconSentry.Proofs.Json.Lexemes

/-!
This module contains that a JSON document is read back from its own text, however deep it is nested. The one exception
is a negative zero, which is read as a decimal.
-/

namespace BeaconSentry
namespace Json

open Token (scan scan_cons scan_print_text scan_print_number EndsNumber endsNumber_nil endsNumber_cons)

/-- A document that its text can stand for: no number in it is a negative natural number that is zero. -/
inductive Value.Written : Value → Prop where
  | null : Written .null
  | bool (b : Bool) : Written (.bool b)
  | number {n : Number} (h : n ≠ .negative 0) : Written (.number n)
  | string (text : Text) : Written (.string text)
  | array {items : List Value} (h : ∀ item ∈ items, Written item) : Written (.array items)
  | object {members : List (Text × Value)} (h : ∀ member ∈ members, Written member.2) : Written (.object members)

namespace Machine

/-- The machine after the lexemes of some text. -/
def after? (machine : Machine) (cs : List Char) : Option Machine := (scan cs).bind (·.foldlM step? machine)

/-- The machine takes a value next, and the value goes to this stack. -/
def Awaits (machine : Machine) (stack : List Frame) : Prop :=
  ∀ token ≠ .closeBracket, machine.step? token = begin? token stack

/-- The machine takes a key next, in an object with these members. -/
def AwaitsKey (machine : Machine) (members : List (Text × Value)) (stack : List Frame) : Prop :=
  ∀ key, machine.step? (.string key) = some ⟨.colon members key, stack⟩

/-- The text of a value leads a machine that awaits one to hold it. -/
def Reads (value : Value) : Prop :=
  ∀ {machine : Machine} {stack : List Frame} {rest : List Char}, machine.Awaits stack → EndsNumber rest →
    machine.after? (value.print ++ rest) = (holding value stack).after? rest

theorem awaits_value (stack : List Frame) : Awaits ⟨.value, stack⟩ stack := by
  intro token _
  rfl

theorem awaits_itemOrEnd (stack : List Frame) : Awaits ⟨.itemOrEnd, stack⟩ (.array [] :: stack) := by
  intro token htoken
  cases token with
  | closeBracket => exact absurd rfl htoken
  | _ => rfl

theorem awaitsKey_keyOrEnd (stack : List Frame) : AwaitsKey ⟨.keyOrEnd, stack⟩ [] stack := fun _ => rfl

theorem awaitsKey_key (members : List (Text × Value)) (stack : List Frame)
    : AwaitsKey ⟨.key members, stack⟩ members stack := fun _ => rfl

theorem printItems_cons_cons (item next : Value) (items : List Value)
    : Value.printItems (item :: next :: items) = item.print ++ ',' :: Value.printItems (next :: items) := rfl

theorem printMembers_cons_cons (key : Text) (value : Value) (next : Text × Value) (members : List (Text × Value))
    : Value.printMembers ((key, value) :: next :: members)
        = Text.print key ++ ':' :: value.print ++ ',' :: Value.printMembers (next :: members) := rfl

section

variable {machine machine' : Machine} {stack : List Frame} {cs rest : List Char}

theorem after?_lexeme {token : Token} (hscan : scan cs = (scan rest).map (token :: ·))
    (hstep : machine.step? token = some machine')
    : machine.after? cs = machine'.after? rest := by
  rw [after?, hscan, after?]
  cases scan rest with
  | none => rfl
  | some tokens => simp [List.foldlM_cons, hstep]

/-- The same for a lexeme of one character. -/
theorem after?_mark {c : Char} {token : Token} (hc : Token.isSpace c = false)
    (hnext : Token.next? c rest = some (token, rest)) (hstep : machine.step? token = some machine')
    : machine.after? (c :: rest) = machine'.after? rest :=
  after?_lexeme (scan_cons hc hnext) hstep

/-- A value that is one lexeme. -/
theorem reads_of_scan {value : Value} (token : Token) (htoken : token ≠ .closeBracket)
    (hbegin : ∀ stack, begin? token stack = some (holding value stack))
    (hscan : ∀ rest, EndsNumber rest → scan (value.print ++ rest) = (scan rest).map (token :: ·))
    : Reads value := by
  intro machine stack rest hawaits hrest
  exact after?_lexeme (hscan rest hrest) ((hawaits token htoken).trans (hbegin stack))

/-- The items of an array are read one after the other onto those that have been read. -/
theorem after?_items {item : Value} {items done : List Value} (hitems : ∀ x ∈ item :: items, Reads x)
    (hawaits : machine.Awaits (.array done :: stack))
    : machine.after? (Value.printItems (item :: items) ++ ']' :: rest)
        = (holding (.array (done.reverse ++ item :: items)) stack).after? rest := by
  induction items generalizing item done machine with
  | nil =>
    have hread := hitems item List.mem_cons_self hawaits (endsNumber_cons ']' rest (by decide))
    have hclose : (holding item (.array done :: stack)).after? (']' :: rest)
        = (holding (.array (item :: done).reverse) stack).after? rest := after?_mark rfl rfl rfl
    rw [Value.printItems, hread, hclose, List.reverse_cons]
  | cons next items ih =>
    have hrest := ih (fun x hx => hitems x (List.mem_cons_of_mem item hx))
      (awaits_value (.array (item :: done) :: stack))
    generalize hlater : Value.printItems (next :: items) ++ ']' :: rest = later at hrest
    have hread := hitems item List.mem_cons_self hawaits (endsNumber_cons ',' later (by decide))
    have hcomma : (holding item (.array done :: stack)).after? (',' :: later)
        = Machine.after? ⟨.value, .array (item :: done) :: stack⟩ later := after?_mark rfl rfl rfl
    rw [printItems_cons_cons, List.append_assoc, List.cons_append, hlater, hread, hcomma, hrest, List.reverse_cons,
      List.append_assoc, List.singleton_append]

theorem after?_member (key : Text) {value : Value} {done : List (Text × Value)} (hvalue : Reads value)
    (hawaits : machine.AwaitsKey done stack) (hrest : EndsNumber rest)
    : machine.after? (Text.print key ++ ':' :: (value.print ++ rest))
        = (holding value (.object done key :: stack)).after? rest := by
  have hkey := after?_lexeme (scan_print_text key (':' :: (value.print ++ rest))) (hawaits key)
  have hcolon : Machine.after? ⟨.colon done key, stack⟩ (':' :: (value.print ++ rest))
      = Machine.after? ⟨.value, .object done key :: stack⟩ (value.print ++ rest) := after?_mark rfl rfl rfl
  rw [hkey, hcolon]
  exact hvalue (awaits_value (.object done key :: stack)) hrest

theorem after?_members {key : Text} {value : Value} {members done : List (Text × Value)}
    (hmembers : ∀ member ∈ (key, value) :: members, Reads member.2) (hawaits : machine.AwaitsKey done stack)
    : machine.after? (Value.printMembers ((key, value) :: members) ++ '\x7d' :: rest)
        = (holding (.object (done.reverse ++ (key, value) :: members)) stack).after? rest := by
  have hvalue : Reads value := hmembers (key, value) List.mem_cons_self
  induction members generalizing key value done machine with
  | nil =>
    have hread := after?_member key hvalue hawaits (endsNumber_cons '\x7d' rest (by decide))
    have hclose : (holding value (.object done key :: stack)).after? ('\x7d' :: rest)
        = (holding (.object ((key, value) :: done).reverse) stack).after? rest := after?_mark rfl rfl rfl
    rw [Value.printMembers, List.append_assoc, List.cons_append, hread, hclose, List.reverse_cons]
  | cons next members ih =>
    have hrest := ih (fun member hmem => hmembers member (List.mem_cons_of_mem _ hmem))
      (awaitsKey_key ((key, value) :: done) stack) (hmembers next (List.mem_cons_of_mem _ List.mem_cons_self))
    generalize hlater : Value.printMembers (next :: members) ++ '\x7d' :: rest = later at hrest
    have hread := after?_member key hvalue hawaits (endsNumber_cons ',' later (by decide))
    have hcomma : (holding value (.object done key :: stack)).after? (',' :: later)
        = Machine.after? ⟨.key ((key, value) :: done), stack⟩ later := after?_mark rfl rfl rfl
    rw [printMembers_cons_cons]
    simp only [List.append_assoc, List.cons_append, hlater]
    rw [hread, hcomma, hrest, List.reverse_cons, List.append_assoc, List.singleton_append]

end

theorem reads_of_written {value : Value} (h : value.Written) : Reads value := by
  induction h with
  | null => exact reads_of_scan .null nofun (fun _ => rfl) fun _ _ => scan_cons rfl rfl
  | bool b =>
    cases b with
    | true => exact reads_of_scan (.bool true) nofun (fun _ => rfl) fun _ _ => scan_cons rfl rfl
    | false => exact reads_of_scan (.bool false) nofun (fun _ => rfl) fun _ _ => scan_cons rfl rfl
  | @number n hn => exact reads_of_scan (.number n) nofun (fun _ => rfl) fun _ => scan_print_number n hn
  | string text =>
    exact reads_of_scan (.string text) nofun (fun _ => rfl) fun rest _ => scan_print_text text rest
  | @array items _ ih =>
    intro machine stack rest hawaits hrest
    have hopen (cs : List Char) : machine.after? ('[' :: cs) = Machine.after? ⟨.itemOrEnd, stack⟩ cs :=
      after?_mark rfl rfl (hawaits .openBracket nofun)
    rw [Value.print, List.append_assoc, List.cons_append, List.singleton_append, hopen]
    cases items with
    | nil => exact after?_mark rfl rfl rfl
    | cons item items => exact after?_items ih (awaits_itemOrEnd stack)
  | @object members _ ih =>
    intro machine stack rest hawaits hrest
    have hopen (cs : List Char) : machine.after? ('\x7b' :: cs) = Machine.after? ⟨.keyOrEnd, stack⟩ cs :=
      after?_mark rfl rfl (hawaits .openBrace nofun)
    rw [Value.print, List.append_assoc, List.cons_append, List.singleton_append, hopen]
    cases members with
    | nil => exact after?_mark rfl rfl rfl
    | cons member members => exact after?_members ih (awaitsKey_keyOrEnd stack)

end Machine

/-- A document is read back from its text. -/
theorem Value.parse?_toText {value : Value} (h : value.Written)
    : Value.parse? value.toText = some value := by
  have hread := Machine.reads_of_written h (Machine.awaits_value []) endsNumber_nil
  have hend : (Machine.holding value []).after? [] = some (Machine.holding value []) := by
    rw [Machine.after?, scan]
    rfl
  rw [List.append_nil, hend] at hread
  rw [Value.parse?, Value.toText, String.toList_ofList]
  calc (scan value.print).bind Value.ofTokens?
    _ = (Machine.start.after? value.print).bind Machine.result? := (Option.bind_assoc _ _ _).symm
    _ = some value := congrArg (·.bind Machine.result?) hread

example : Value.parse? (Value.toText (.number (.negative 0))) = some (.number (.decimal true 0 0)) := by cbv

end Json
end BeaconSentry
