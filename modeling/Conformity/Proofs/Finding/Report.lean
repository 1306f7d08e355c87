import Conformity.Finding.Report
import Conformity.Proofs.Markup.Charset
import Conformity.Proofs.Markup.Places
import Conformity.Proofs.Text.Trim
import Mathlib.Data.List.Forall2
import Mathlib.Data.List.Lex

/-!
# What a report says

A report is a tree in which two sorts of elements stand for findings: assertions of the report language,
and plain errors that have text. Each of them stands for one finding (`Report.StandsFor.unique`), in the
order of their places, and nothing else does. A finding of an assertion that has no id of its own gets
the one of the last rule that fired before it, if that rule has one (`Report.LastFired`). What the
reader of a report carries along is this id, from place to place (`Report.LastFired.step`,
`Report.findingsFrom_standsFor`).
-/

namespace Conformity.Report

open Markup (Node Attribute Source Guarded.read)

variable {root n : Node} {place next : List Nat} {base : String} {attributes : List Attribute}
  {id last : Option String}

/-! ## What is said -/

/-- An element of the report language with a name. -/
def isNamed (base : String) : Node → Bool
  | .element name _ _ _ => name.isIn space base
  | _ => false

/-- An assertion that failed, or a report that was made. -/
def isAssertion (n : Node) : Bool := isNamed "failed-assert" n || isNamed "successful-report" n

/-- A plain error with text. -/
def isError : Node → Bool
  | .element name _ _ children =>
    name.isPlain "Error" && !Text.isBlankText (Node.textOfAll children)
  | _ => false

/-- What an attribute says: its value, unless it is missing or blank. -/
inductive Says (attributes : List Attribute) (base : String) : Option String → Prop
  | value {v : String} : Node.attribute? base attributes = some v → ¬ Text.isBlankText v →
      Says attributes base (some v)
  | blank {v : String} : Node.attribute? base attributes = some v → Text.isBlankText v →
      Says attributes base none
  | missing : Node.attribute? base attributes = none → Says attributes base none

/-- The message of an assertion: the words of the first explanation inside, however deep in it they
stand. -/
inductive Explains (children : List Node) : String → Prop
  | explanation {before after : List Node} {n : Node} : children = before ++ n :: after →
      isNamed "text" n → (∀ m ∈ before, ¬ isNamed "text" m) →
        Explains children (Text.collapsed n.textContent)
  | silent : (∀ n ∈ children, ¬ isNamed "text" n) → Explains children ""

/-- What the last rule says that fired before a place. -/
inductive LastFired (root : Node) (place : List Nat) : Option String → Prop
  | rule {earlier : List Nat} {n : Node} {id : Option String} : earlier < place →
      root.at? earlier = some n → isNamed "fired-rule" n →
      (∀ between m, earlier < between → between < place → root.at? between = some m →
        ¬ isNamed "fired-rule" m) →
      Says n.attributes "id" id → LastFired root place id
  | none : (∀ earlier m, earlier < place → root.at? earlier = some m → ¬ isNamed "fired-rule" m) →
      LastFired root place none

/-- The finding that the node at a place stands for. -/
inductive StandsFor (root : Node) (place : List Nat) (n : Node) : Finding → Prop
  | assertion {own last test : Option String} {message : String} : isAssertion n →
      Says n.attributes "id" own → LastFired root place last → Says n.attributes "test" test →
      Explains n.children message → StandsFor root place n ⟨own.or last, test, message⟩
  | error {ruleId test : Option String} : isError n → Says n.attributes "ruleId" ruleId →
      Says n.attributes "test" test →
        StandsFor root place n ⟨ruleId, test, Text.trim n.textContent⟩

/-! ## Parts -/

theorem says_iff {v? : Option String} :
    Says attributes base v? ↔ attribute? base attributes = v? := by
  unfold attribute?
  constructor
  · intro h
    cases h with
    | value hv hblank => simp [hv, hblank]
    | blank hv hblank => simp [hv, hblank]
    | missing hnone => simp [hnone]
  · rintro rfl
    cases hv : Node.attribute? base attributes with
    | none => exact .missing hv
    | some v =>
        by_cases hblank : Text.isBlankText v
        · rw [Option.filter_some_neg (by simpa using hblank)]
          exact .blank hv hblank
        · rw [Option.filter_some_pos (by simpa using hblank)]
          exact .value hv hblank

theorem explains_iff {children : List Node} {s : String} :
    Explains children s ↔ message children = s := by
  have hfind : explanation? children = children.find? (isNamed "text") := rfl
  unfold message
  rw [hfind]
  constructor
  · intro h
    cases h with
    | @explanation before after n hsplit hn hbefore =>
        have hfirst : children.find? (isNamed "text") = some n :=
          List.find?_eq_some_iff_append.mpr ⟨hn, before, after, hsplit, by simpa using hbefore⟩
        rw [hfirst]
        exact Text.squeeze_eq_collapsed _
    | silent hall => rw [List.find?_eq_none.mpr hall]
  · rintro rfl
    cases h : children.find? (isNamed "text") with
    | none => exact .silent (List.find?_eq_none.mp h)
    | some n =>
        obtain ⟨hn, before, after, rfl, hbefore⟩ := List.find?_eq_some_iff_append.mp h
        dsimp only
        rw [Text.squeeze_eq_collapsed]
        exact .explanation rfl hn (by simpa using hbefore)

/-- Of two rules that fired before a place with none between them and the place, each is the other. -/
theorem LastFired.unique {last' : Option String} (h : LastFired root place last)
    (h' : LastFired root place last') : last = last' := by
  cases h with
  | @rule p n _ hp hn hrule hlater hid =>
      cases h' with
      | @rule p' n' _ hp' hn' hrule' hlater' hid' =>
          rcases lt_trichotomy p p' with hless | rfl | hless
          · exact absurd hrule' (hlater p' n' hless hp' hn')
          · rw [hn] at hn'
            cases hn'
            rw [← says_iff.mp hid, says_iff.mp hid']
          · exact absurd hrule (hlater' p n hless hp hn)
      | none hall => exact absurd hrule (hall p n hp hn)
  | none hall =>
      cases h' with
      | @rule p n _ hp hn hrule _ _ => exact absurd hrule (hall p n hp hn)
      | none _ => rfl

/-! ## One element -/

theorem isElement_of_isNamed (h : isNamed base n) : n.IsElement := by
  cases n with
  | element name declared attributes children => exact ⟨name, declared, attributes, children, rfl⟩
  | text | entity | comment | instruction => cases h

theorem fired_of_isNamed (h : isNamed "fired-rule" n) :
    fired last n = attribute? "id" n.attributes := by
  cases n with
  | element => exact if_pos h
  | text | entity | comment | instruction => cases h

theorem fired_of_not_isNamed (h : ¬ isNamed "fired-rule" n) : fired last n = last := by
  cases n with
  | element => exact if_neg h
  | text | entity | comment | instruction => rfl

/-- An assertion is no rule. -/
theorem not_isNamed_of_isAssertion (h : isAssertion n) : ¬ isNamed "fired-rule" n := by
  cases n with
  | element name =>
      simp only [isAssertion, isNamed, Markup.Name.isIn, Bool.or_eq_true, Bool.and_eq_true,
        beq_iff_eq] at h ⊢
      rintro ⟨-, hbase⟩
      rcases h with ⟨-, h⟩ | ⟨-, h⟩ <;> simp [hbase] at h
  | text | entity | comment | instruction => exact Bool.false_ne_true

theorem not_isError_of_isAssertion (h : isAssertion n) : ¬ isError n := by
  cases n with
  | element name =>
      simp only [isAssertion, isNamed, Markup.Name.isIn, Bool.or_eq_true, Bool.and_eq_true,
        beq_iff_eq] at h
      have hspace : name.space = some space := by
        rcases h with ⟨h, -⟩ | ⟨h, -⟩
        · exact h
        · exact h
      simp [isError, Markup.Name.isPlain, hspace]
  | text | entity | comment | instruction => cases h

/-- The node at a place stands for one finding at most. -/
theorem StandsFor.unique {f f' : Finding} (h : StandsFor root place n f)
    (h' : StandsFor root place n f') : f = f' := by
  cases h with
  | assertion hassertion hown hlast htest hmessage =>
      cases h' with
      | assertion _ hown' hlast' htest' hmessage' =>
          rw [says_iff] at hown htest hown' htest'
          rw [explains_iff] at hmessage hmessage'
          rw [← hown, ← htest, ← hmessage, hlast.unique hlast', hown', htest', hmessage']
      | error herror => exact absurd herror (not_isError_of_isAssertion hassertion)
  | error herror hid htest =>
      cases h' with
      | assertion hassertion => exact absurd herror (not_isError_of_isAssertion hassertion)
      | error _ hid' htest' =>
          rw [says_iff] at hid htest hid' htest'
          rw [← hid, ← htest, hid', htest']

/-- What an element stands for, if it stands for anything. -/
theorem finding?_eq (last : Option String) (n : Node) :
    finding? last n =
      if isAssertion n then
        some ⟨(attribute? "id" n.attributes).or last, attribute? "test" n.attributes,
          message n.children⟩
      else if isError n then
        some ⟨attribute? "ruleId" n.attributes, attribute? "test" n.attributes,
          Text.trim n.textContent⟩
      else none := by
  cases n with
  | element name declared attributes children =>
      -- a text that is blank is the one of which nothing is left
      have herror : isError (.element name declared attributes children) =
          (name.isPlain "Error" && !(Text.trim (Node.textOfAll children)).isEmpty) := by
        rw [Text.isEmpty_trim]
        rfl
      rw [herror, finding?]
      refine ite_congr rfl (fun _ => rfl) fun _ => ?_
      dsimp only
      cases name.isPlain "Error" <;> cases (Text.trim (Node.textOfAll children)).isEmpty <;> rfl
  | text | entity | comment | instruction => rfl

/-! ## From element to element -/

/-- Does a node stand for a finding? -/
def isTold (n : Node) : Bool := isAssertion n || isError n

/-- A node that stands for a finding stands for the one that is told. -/
theorem exists_finding?_of_isTold (h : isTold n) (hlast : LastFired root place last) :
    ∃ f, finding? (fired last n) n = some f ∧ StandsFor root place n f := by
  rw [finding?_eq]
  by_cases hassertion : isAssertion n
  · rw [if_pos hassertion, fired_of_not_isNamed (not_isNamed_of_isAssertion hassertion)]
    exact ⟨_, rfl, .assertion hassertion (says_iff.mpr rfl) hlast (says_iff.mpr rfl)
      (explains_iff.mpr rfl)⟩
  · have herror : isError n := by simpa [isTold, hassertion] using h
    rw [if_neg hassertion, if_pos herror]
    exact ⟨_, rfl, .error herror (says_iff.mpr rfl) (says_iff.mpr rfl)⟩

theorem finding?_of_not_isTold (h : ¬ isTold n) : finding? last n = none := by
  rw [isTold, Bool.or_eq_true, not_or] at h
  rw [finding?_eq, if_neg h.1, if_neg h.2]

/-- Nothing fires before the first element, which is the root. -/
theorem lastFired_first (root : Node) : ∀ x ∈ root.placed.head?, LastFired root x.1 none := by
  cases root with
  | element name declared attributes children =>
      rintro x ⟨⟩
      exact .none fun earlier _ hless _ => absurd hless (List.not_lt_nil earlier)
  | text | entity | comment | instruction =>
      intro x hx
      simp [Node.placed] at hx

/-- The next element comes after what fired before this one, and this one. -/
theorem LastFired.step (hlast : LastFired root place last) (hat : root.at? place = some n)
    (hless : place < next)
    (hnext : ∀ between m, place < between → between < next → root.at? between = some m →
      ¬ isNamed "fired-rule" m) :
    LastFired root next (fired last n) := by
  by_cases hfired : isNamed "fired-rule" n
  · rw [fired_of_isNamed hfired]
    exact .rule hless hat hfired hnext (says_iff.mpr rfl)
  · rw [fired_of_not_isNamed hfired]
    -- a rule that fires before the next element fires before this one
    have hbefore : ∀ p m, p < next → root.at? p = some m → isNamed "fired-rule" m → p < place := by
      intro p m hp hm hrule
      rcases lt_trichotomy p place with hp' | rfl | hp'
      · exact hp'
      · rw [hat] at hm
        cases hm
        exact absurd hrule hfired
      · exact absurd hrule (hnext p m hp' hp hm)
    cases hlast with
    | rule hearlier hn hrule hlater hid =>
        refine .rule (hearlier.trans hless) hn hrule ?_ hid
        intro between m hbetween hbetween' hm hrule'
        exact hlater between m hbetween (hbefore between m hbetween' hm hrule') hm hrule'
    | none hall =>
        refine .none ?_
        intro p m hp hm hrule
        exact hall p m (hbefore p m hp hm hrule) hm hrule

/-- Between an element and the next one there is no other. -/
theorem not_isNamed_between {done rest : List (List Nat × Node)} {x y : List Nat × Node}
    (hplaced : root.placed = done ++ x :: y :: rest) {between : List Nat} {m : Node}
    (hbetween : x.1 < between) (hbetween' : between < y.1) (hm : root.at? between = some m) :
    ¬ isNamed base m := by
  intro hnamed
  have hsorted := root.pairwise_placed
  have hmem := Node.mem_placed_iff.mpr ⟨hm, isElement_of_isNamed hnamed⟩
  rw [hplaced, List.pairwise_append, List.pairwise_cons, List.pairwise_cons] at hsorted
  rw [hplaced, List.mem_append, List.mem_cons, List.mem_cons] at hmem
  obtain ⟨-, ⟨-, hlater, -⟩, hearlier⟩ := hsorted
  rcases hmem with hmem | rfl | rfl | hmem
  · exact lt_asymm hbetween (hearlier _ hmem _ List.mem_cons_self)
  · exact lt_irrefl _ hbetween
  · exact lt_irrefl _ hbetween'
  · exact lt_asymm hbetween' (hlater _ hmem)

/-- The elements of a list stand for what is found in it, if it is known what fired before the first of
them. -/
theorem findingsFrom_standsFor {done todo : List (List Nat × Node)}
    (hplaced : root.placed = done ++ todo)
    (hlast : ∀ x ∈ todo.head?, LastFired root x.1 last) :
    List.Forall₂ (fun x f => root.at? x.1 = some x.2 ∧ StandsFor root x.1 x.2 f)
      (todo.filter (isTold ·.2)) (findingsFrom last (todo.map Prod.snd)) := by
  induction todo generalizing done last with
  | nil => exact .nil
  | cons x todo ih =>
      have hx : LastFired root x.1 last := hlast x rfl
      have hat : root.at? x.1 = some x.2 :=
        (Node.mem_placed_iff.mp (by simp [hplaced] : (x.1, x.2) ∈ root.placed)).1
      have hnext : ∀ y ∈ todo.head?, LastFired root y.1 (fired last x.2) := by
        intro y hy
        obtain ⟨rest, rfl⟩ := List.head?_eq_some_iff.mp hy
        have hless : x.1 < y.1 := by
          have hsorted := root.pairwise_placed
          rw [hplaced, List.pairwise_append, List.pairwise_cons] at hsorted
          exact hsorted.2.1.1 y List.mem_cons_self
        exact hx.step hat hless fun between m => not_isNamed_between hplaced
      have hplaced' : root.placed = (done ++ [x]) ++ todo := by
        rw [hplaced, List.append_assoc]
        rfl
      have hrest := ih hplaced' hnext
      rw [List.filter_cons, List.map_cons, findingsFrom]
      by_cases htold : isTold x.2
      · obtain ⟨f, hf, hstands⟩ := exists_finding?_of_isTold htold hx
        rw [if_pos htold, hf]
        exact .cons ⟨hat, hstands⟩ hrest
      · rw [if_neg htold, finding?_of_not_isTold htold]
        exact hrest

/-! ## Places where something is told -/

theorem isElement_of_isTold (h : isTold n) : n.IsElement := by
  cases n with
  | element name declared attributes children => exact ⟨name, declared, attributes, children, rfl⟩
  | text | entity | comment | instruction => cases h

/-- The places of the nodes that stand for findings. -/
def toldPlaces (root : Node) : List (List Nat) := (root.placed.filter (isTold ·.2)).map Prod.fst

theorem pairwise_toldPlaces (root : Node) : (toldPlaces root).Pairwise (· < ·) := by
  rw [toldPlaces, List.pairwise_map]
  exact root.pairwise_placed.filter _

theorem mem_toldPlaces_iff :
    place ∈ toldPlaces root ↔ ∃ n, root.at? place = some n ∧ isTold n := by
  rw [toldPlaces, List.mem_map]
  constructor
  · rintro ⟨⟨place, n⟩, hn, rfl⟩
    obtain ⟨hplaced, htold⟩ := List.mem_filter.mp hn
    exact ⟨n, (Node.mem_placed_iff.mp hplaced).1, htold⟩
  · rintro ⟨n, hat, htold⟩
    have hplaced := Node.mem_placed_iff.mpr ⟨hat, isElement_of_isTold htold⟩
    exact ⟨(place, n), List.mem_filter.mpr ⟨hplaced, htold⟩, rfl⟩

/-- A finding that the node at a place stands for. -/
def IsToldAt (root : Node) (place : List Nat) (f : Finding) : Prop :=
  ∃ n, root.at? place = some n ∧ StandsFor root place n f

theorem rightUnique_isToldAt (root : Node) : Relator.RightUnique (IsToldAt root) := by
  rintro place f f' ⟨n, hn, hf⟩ ⟨n', hn', hf'⟩
  rw [hn] at hn'
  cases hn'
  exact hf.unique hf'

/-- What is found in a tree is told at these places, in their order. -/
theorem forall₂_findingsOf (root : Node) :
    List.Forall₂ (IsToldAt root) (toldPlaces root) (findingsOf root) := by
  have hplaced : root.placed = [] ++ root.placed := rfl
  have hstands := findingsFrom_standsFor hplaced (lastFired_first root)
  rw [Node.map_snd_placed] at hstands
  rw [toldPlaces, List.forall₂_map_left_iff]
  exact hstands.imp fun x f h => ⟨x.2, h⟩

/-- Nothing else is found. -/
theorem forall₂_isToldAt_iff {fs : List Finding} :
    List.Forall₂ (IsToldAt root) (toldPlaces root) fs ↔ findingsOf root = fs := by
  constructor
  · intro h
    exact (rightUnique_isToldAt root).forall₂ (forall₂_findingsOf root) h
  · rintro rfl
    exact forall₂_findingsOf root

/-! ## Reports -/

/-- A document is no blank text. -/
theorem not_isBlankText_of_read {output : Source} (h : Guarded.read output = .ok root) :
    ¬ Text.isBlankText (text output) := by
  obtain ⟨cs, hcs, hroot⟩ := Markup.Guarded.exists_chars_of_read h
  suffices hfilled : ∃ c ∈ (text output).toList, ¬ Text.isBlank c by
    obtain ⟨c, hc, hblank⟩ := hfilled
    intro hall
    exact hblank (List.all_eq_true.mp hall c hc)
  cases output with
  | bytes bs =>
      rw [text, String.toList_ofList]
      exact Markup.Guarded.exists_not_isBlank hcs hroot
  | chars ds =>
      refine ⟨'<', ?_, by decide⟩
      rw [text, String.toList_ofList]
      unfold Markup.Guarded.chars at hcs
      split at hcs
      · next heq =>
        cases heq
        cases hcs
        exact List.mem_cons_of_mem _ hroot
      · next heq =>
        cases heq
        cases hcs
        exact hroot
      all_goals next heq => cases heq

/-- The findings of a report are those that its assertions and its errors with text stand for, in the
order of their places, one for each; and they are what is told of an output that can be read as this
report. -/
theorem findings_exact (root : Node) :
    (∃ places : List (List Nat), places.Pairwise (· < ·) ∧
      (∀ place, place ∈ places ↔ ∃ n, root.at? place = some n ∧ isTold n) ∧
      ∀ fs, List.Forall₂ (IsToldAt root) places fs ↔ findingsOf root = fs) ∧
    ∀ output, Guarded.read output = .ok root → findings output = .ok (findingsOf root) := by
  constructor
  · exact ⟨toldPlaces root, pairwise_toldPlaces root, fun _ => mem_toldPlaces_iff,
      fun _ => forall₂_isToldAt_iff⟩
  · intro output h
    rw [findings, if_neg (not_isBlankText_of_read h), h]

/-- A report with both sorts of elements at two depths, and a rule without an id after one with an
id. -/
def mixedReport : List String :=
  ["<s:o xmlns:s=", "'http://purl.oclc.org", "/dsdl/svrl'>", "<s:fired-rule id='R1'/>", "<g>",
    "<s:failed-assert test='a'>", "<s:text> no\n<b>note</b> </s:text>", "</s:failed-assert>",
    "<Error ruleId='E'>", " too <i>late</i></Error>", "</g>", "<s:successful-report ", "id='own'/>",
    "<s:fired-rule id=' '/>", "<s:failed-assert/>", "</s:o>"]

/-- The last assertion does not get the id of the rule before the last one. -/
theorem findings_exact_of_mixed : ∃ root,
    Guarded.read (.chars (mixedReport.flatMap String.toList)) = .ok root ∧
    findings (.chars (mixedReport.flatMap String.toList)) = .ok (findingsOf root) ∧
    findingsOf root = [⟨some "R1", some "a", "no note"⟩, ⟨some "E", none, "too late"⟩,
      ⟨some "own", none, ""⟩, ⟨none, none, ""⟩] := by
  obtain ⟨root, hread, hfound⟩ := exists_eq_ok_of_any (by decide +kernel :
    (Guarded.read (.chars (mixedReport.flatMap String.toList))).toOption.any fun root =>
      decide (findingsOf root = [⟨some "R1", some "a", "no note"⟩, ⟨some "E", none, "too late"⟩,
        ⟨some "own", none, ""⟩, ⟨none, none, ""⟩]))
  exact ⟨root, hread, (findings_exact root).2 _ hread, of_decide_eq_true hfound⟩

end Conformity.Report
