import Conformity.Markup.Faithful
import Conformity.Markup.Printed
import Mathlib.Data.List.Basic

/-!
# Texts next to each other

A reader may cut a text where a reference or a marked section begins. Two trees are the same document
if they are the same with texts next to each other joined (`Node.joined`): they are written in the same
way (`Node.print_joined`), and their elements have the same names and attributes. So a document is read
back as it was if its text is that of the same tree (`Document.ReadsBack`).
-/

namespace Conformity.Markup

namespace Node

/-- A node before others; a text joins the text behind it. -/
def prepend : Node → List Node → List Node
  | text s, text t :: ns => text (s ++ t) :: ns
  | n, ns => n :: ns

mutual

/-- A node with texts next to each other joined. -/
def joined : Node → Node
  | element name declared attributes children =>
    element name declared attributes (joinedAll children)
  | n => n

/-- Nodes with texts next to each other joined. -/
def joinedAll : List Node → List Node
  | [] => []
  | n :: ns => prepend (joined n) (joinedAll ns)

end

/-! ## Writing -/

theorem writeChars_append (write : Char → String) (s t : String) :
    writeChars write (s ++ t) = writeChars write s ++ writeChars write t := by
  simp [writeChars, String.join_append]

/-- An element without children is written as one tag. -/
theorem print_element (name : Name) (ds : List SpaceDeclaration) (as : List Attribute)
    (cs : List Node) : print (.element name ds as cs) =
      "<" ++ name.written ++ String.join (ds.map SpaceDeclaration.print) ++
        String.join (as.map Attribute.print) ++
          if cs = [] then "/>" else ">" ++ printAll cs ++ "</" ++ name.written ++ ">" := by
  cases cs with
  | nil => rfl
  | cons n ns => simp [print, printAll, String.append_assoc]

theorem prepend_ne_nil (n : Node) (ns : List Node) : prepend n ns ≠ [] := by
  unfold prepend
  split <;> simp

theorem joinedAll_eq_nil_iff {ns : List Node} : joinedAll ns = [] ↔ ns = [] := by
  cases ns with
  | nil => simp [joinedAll]
  | cons n ns => simp [joinedAll, prepend_ne_nil]

theorem printAll_prepend (n : Node) (ns : List Node) :
    printAll (prepend n ns) = print n ++ printAll ns := by
  unfold prepend
  split
  · simp [printAll, print, writeChars_append, String.append_assoc]
  · rfl

mutual

/-- Texts next to each other are written like one text. -/
theorem print_joined : ∀ n : Node, n.joined.print = n.print
  | .element name ds as cs => by
      rw [joined, print_element, print_element, printAll_joinedAll cs]
      simp only [joinedAll_eq_nil_iff]
  | .text _ => rfl
  | .entity _ => rfl
  | .comment _ => rfl
  | .instruction _ _ => rfl

theorem printAll_joinedAll : ∀ ns : List Node, printAll (joinedAll ns) = printAll ns
  | [] => rfl
  | n :: ns => by
      rw [joinedAll, printAll_prepend, print_joined n, printAll_joinedAll ns]
      rfl

end

/-! ## Elements -/

theorem elementsOfAll_prepend (n : Node) (ns : List Node) :
    elementsOfAll (prepend n ns) = n.elements ++ elementsOfAll ns := by
  unfold prepend
  split <;> rfl

mutual

theorem elements_joined : ∀ n : Node, n.joined.elements = n.elements.map joined
  | .element name ds as cs => by
      rw [joined, elements, elements, elementsOfAll_joinedAll cs, List.map_cons, joined]
  | .text _ => rfl
  | .entity _ => rfl
  | .comment _ => rfl
  | .instruction _ _ => rfl

theorem elementsOfAll_joinedAll : ∀ ns : List Node,
    elementsOfAll (joinedAll ns) = (elementsOfAll ns).map joined
  | [] => rfl
  | n :: ns => by
      rw [joinedAll, elementsOfAll_prepend, elements_joined n, elementsOfAll_joinedAll ns,
        elementsOfAll, List.map_append]

end

/-- What is read off elements without looking inside is the same in the joined tree. -/
theorem filterMap_elements_joined {β : Type} {f : Node → Option β} (h : ∀ n : Node, f n.joined = f n)
    (n : Node) : n.joined.elements.filterMap f = n.elements.filterMap f := by
  have hf : f ∘ joined = f := funext h
  rw [elements_joined, List.filterMap_map, hf]

/-- What is read off nodes that are no texts, however their texts are cut, is the same after joining. -/
theorem flatMap_joinedAll {β : Type} {f : Node → List β} (htext : ∀ s, f (.text s) = [])
    (h : ∀ n : Node, f n.joined = f n) (ns : List Node) : (joinedAll ns).flatMap f = ns.flatMap f := by
  have hprepend : ∀ (n : Node) (ns : List Node), (prepend n ns).flatMap f = (n :: ns).flatMap f := by
    intro n ns
    unfold prepend
    split
    · simp [htext]
    · rfl
  induction ns with
  | nil => rfl
  | cons n ns ih => rw [joinedAll, hprepend, List.flatMap_cons, List.flatMap_cons, h, ih]

theorem filterMap_joinedAll {β : Type} {f : Node → Option β} (htext : ∀ s, f (.text s) = none)
    (h : ∀ n : Node, f n.joined = f n) (ns : List Node) :
    (joinedAll ns).filterMap f = ns.filterMap f := by
  rw [List.filterMap_eq_flatMap_toList, List.filterMap_eq_flatMap_toList]
  exact flatMap_joinedAll (fun s => by rw [htext]; rfl) (fun n => by rw [h]) ns

mutual

theorem textContent_joined : ∀ n : Node, textContent n.joined = textContent n
  | .element _ _ _ children => textOfAll_joinedAll children
  | .text _ => rfl
  | .entity _ => rfl
  | .comment _ => rfl
  | .instruction _ _ => rfl

/-- Joining texts keeps the text inside nodes. -/
theorem textOfAll_joinedAll : ∀ ns : List Node, textOfAll (joinedAll ns) = textOfAll ns
  | [] => rfl
  | n :: ns => by
      have hprepend : ∀ (n : Node) (ns : List Node), textOfAll (prepend n ns) = textOfAll (n :: ns) := by
        intro n ns
        unfold prepend
        split
        · simp [textOfAll, textContent, String.append_assoc]
        · rfl
      rw [joinedAll, hprepend, textOfAll, textOfAll, textContent_joined n, textOfAll_joinedAll ns]

end

/-! ## Comparing trees -/

mutual

/-- Are two nodes the same? -/
def isSame : Node → Node → Bool
  | .text s, .text t => s == t
  | .entity s, .entity t => s == t
  | .comment s, .comment t => s == t
  | .instruction s data, .instruction t data' => s == t && data == data'
  | .element name ds as cs, .element name' ds' as' cs' =>
    name == name' && ds == ds' && as == as' && areSame cs cs'
  | _, _ => false

/-- Are nodes the same, one by one? -/
def areSame : List Node → List Node → Bool
  | [], [] => true
  | m :: ms, n :: ns => isSame m n && areSame ms ns
  | _, _ => false

end

mutual

theorem isSame_iff : ∀ m n : Node, isSame m n ↔ m = n
  | .element name ds as cs, n => by
      cases n <;> simp [isSame, areSame_iff cs, and_assoc]
  | .text s, n => by cases n <;> simp [isSame]
  | .entity s, n => by cases n <;> simp [isSame]
  | .comment s, n => by cases n <;> simp [isSame]
  | .instruction s data, n => by cases n <;> simp [isSame]

theorem areSame_iff : ∀ ms ns : List Node, areSame ms ns ↔ ms = ns
  | [], ns => by cases ns <;> simp [areSame]
  | m :: ms, ns => by cases ns <;> simp [areSame, isSame_iff m, areSame_iff ms]

end

instance : DecidableEq Node := fun m n => decidable_of_iff _ (isSame_iff m n)

end Node

/-! ## Documents -/

namespace Document

/-- What is written before the root. -/
def before (d : Document) : String :=
  "<?xml version='" ++ d.version ++ "' encoding='UTF-8'?>\n" ++ Node.printAll d.beforeType ++
    (match d.doctype with
      | some t => if t.name == d.rootBase then t.print else ""
      | none => "") ++
    Node.printAll d.beforeRoot

/-- What is written behind the root. -/
def after (d : Document) : String := Node.printAll d.afterRoot

theorem print_eq (d : Document) : d.print = d.before ++ d.root.print ++ d.after := rfl

/-- Documents with the same tree, however its texts are cut, and with the same written around it. -/
structure SameAs (d d' : Document) : Prop where
  root : d.root.joined = d'.root.joined
  before : d.before = d'.before
  after : d.after = d'.after

instance (d d' : Document) : Decidable (d.SameAs d') :=
  decidable_of_iff (d.root.joined = d'.root.joined ∧ d.before = d'.before ∧ d.after = d'.after)
    ⟨fun h => ⟨h.1, h.2.1, h.2.2⟩, fun h => ⟨h.root, h.before, h.after⟩⟩

/-- The same documents are written in the same way. -/
theorem SameAs.bytes_eq {d d' : Document} (h : d.SameAs d') : d.bytes = d'.bytes := by
  have hroot : d.root.print = d'.root.print := by
    rw [← Node.print_joined d.root, h.root, Node.print_joined]
  rw [bytes, bytes, print_eq, print_eq, h.before, h.after, hroot]

/-- A document that is read back from its text as it is. One with an empty marked section is not: the
empty text is there when it is read first, and is not written. -/
def ReadsBack (d : Document) : Prop := ∃ d', Faithful.read? d.bytes = some d' ∧ d'.SameAs d

instance (d : Document) : Decidable d.ReadsBack :=
  decidable_of_iff ((Faithful.read? d.bytes).any fun d' => d'.SameAs d)
    (by simp [ReadsBack, Option.any_eq_true])

end Document

end Conformity.Markup
