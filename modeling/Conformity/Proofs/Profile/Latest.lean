import Conformity.Proofs.Profile.Exclusion

/-!
# What was written last is served

Whoever has written the document last and has come to its end serves the global assertions that the
document holds, and so does every reload that follows (`Editors.Latest`). Unlike
`Editors.no_edit_lost` this does not ask whether other documents can be loaded.
-/

namespace Conformity.Registry.Editors

open ProfileStore

variable {ι : Type} [DecidableEq ι] {store : ProfileStore} {w w' : Editors ι} {c : ι}

/-! ## Calls that have come to a result -/

omit [DecidableEq ι] in
theorem mem_written {e : Edit × Data.Fields} (h : (c, e) ∈ w.written) :
    (w.stage c).wrote? = some e := by
  obtain ⟨c', -, hc'⟩ := List.mem_filterMap.mp h
  obtain ⟨e', he', heq⟩ := Option.map_eq_some_iff.mp hc'
  cases heq
  exact he'

/-- A call keeps its result, and what it has written. -/
theorem Effect.result_stays (effect : Effect store w w') (h : (w.stage c).result?.isSome) :
    (w'.stage c).result? = (w.stage c).result? ∧ (w'.stage c).wrote? = (w.stage c).wrote? := by
  have hne : ∀ {c₀ : ι} {x : Stage}, w.stage c₀ = x → x.result? = none → c ≠ c₀ := by
    rintro c₀ x rfl hnone rfl
    rw [hnone] at h
    cases h
  cases effect with
  | idle idle => exact ⟨idle.result (.inl h), idle.wrote c⟩
  | write opened _ _ _ _ stage _ =>
      rw [stage, Function.update_of_ne (hne opened rfl)]
      exact ⟨rfl, rfl⟩
  | publish loaded _ =>
      rw [stage_publish_of_ne _ (hne loaded rfl)]
      exact ⟨rfl, rfl⟩

/-- While a call stands still inside, nothing is published. -/
theorem Effect.snapshot_eq (inv : Exclusive w) (effect : Effect store w w')
    (inside : (w.stage c).isInside = true) (still : w'.stage c = w.stage c) :
    w'.registry.snapshot = w.registry.snapshot := by
  cases effect with
  | idle idle => exact idle.snapshot
  | write _ _ _ _ snapshot _ _ => exact snapshot
  | @publish c₀ errand wrote d loaded _ =>
      have hinside : (w.stage c₀).isInside = true := by
        rw [loaded]
        rfl
      obtain rfl := inv.alone inside hinside
      rw [stage_publish_self, loaded] at still
      cases still

/-! ## The last document -/

/-- The document is what was written last. What a call has loaded is that document, and what is served
are its global assertions once the call that has written it has come to its end. -/
structure Latest (store : ProfileStore) (w : Editors ι) : Prop where
  exclusive : Exclusive w
  tree : w.registry.disk.IsTree
  printed : ∀ {c : ι} {e : Edit} {entries : Data.Fields},
    w.written.getLast? = some (c, e, entries) →
      (∃ r, e.entries? r = some entries) ∧ w.document store = some (Edit.printed entries)
  loaded : ∀ {c : ι} {errand : Errand} {wrote : Option Data.Fields}
    {d : Except Failure ProfilesDocument} {content : Bytes},
    w.stage c = .loaded errand wrote d → w.document store = some content →
      d = store.rootOf content >>= readRoot
  globals : ∀ {c : ι} {e : Edit} {entries : Data.Fields} {change : Option ProfileChange} {r : Root},
    w.written.getLast? = some (c, e, entries) → (w.stage c).result? = some (.ok change) →
      store.rootOf (Edit.printed entries) = .ok r → w.registry.snapshot.globals = r.globals

omit [DecidableEq ι] in
theorem Latest.start (store : ProfileStore) {disk : Disk} (snapshot : Snapshot)
    (tree : disk.IsTree) : Latest store (.start disk snapshot : Editors ι) where
  exclusive := .start disk snapshot
  tree := tree
  printed := nofun
  loaded := nofun
  globals := nofun

/-- A reload of a document publishes its global assertions, or fails. -/
theorem globals_reloaded (r : Root) (st : RegistryState) :
    (reloaded (readRoot r) st).2.snapshot.globals = r.globals ∨
      (reloaded (readRoot r) st).2 = st ∧ ∃ e, (reloaded (readRoot r) st).1 = .error e := by
  by_cases hrecords : ∀ e ∈ r.contents, Profile.CanBeTold e.2
  · rw [readRoot_eq_ok hrecords]
    unfold reloaded
    dsimp only
    cases hd : Snapshot.ofDocument ⟨r.globals, r.contents.profiles, r.contents.faults⟩ with
    | error l => exact .inr ⟨rfl, _, rfl⟩
    | ok made =>
        obtain ⟨_, -, hmade⟩ := bind_eq_ok.mp hd
        cases hmade
        exact .inl rfl
  · obtain ⟨e, he⟩ := exists_readRoot_eq_error hrecords
    rw [he]
    exact .inr ⟨rfl, _, rfl⟩

/-- Once its globals are served, a document keeps them through every reload. -/
theorem globals_reloaded_of_eq {root : Except Failure Root} {st : RegistryState}
    (h : ∀ r, root = .ok r → st.snapshot.globals = r.globals) :
    (reloaded (root >>= readRoot) st).2.snapshot.globals = st.snapshot.globals := by
  cases root with
  | error e => rfl
  | ok r =>
      rcases globals_reloaded r st with hnew | ⟨hsame, -⟩
      · exact hnew.trans (h r rfl).symm
      · exact congrArg (·.snapshot.globals) hsame

namespace Latest

/-- What was written last is still the last, and its global assertions are still served. -/
theorem globals_stay (inv : Latest store w) (effect : Effect store w w') {e : Edit}
    {entries : Data.Fields} (last : w'.written.getLast? = some (c, e, entries))
    (h : (w.stage c).result?.isSome) : w.written.getLast? = some (c, e, entries) ∧
      ((∃ change, (w.stage c).result? = some (.ok change)) →
        w'.registry.snapshot.globals = w.registry.snapshot.globals) := by
  cases effect with
  | idle idle =>
      rw [idle.written] at last
      exact ⟨last, fun _ => by rw [idle.snapshot]⟩
  | @write _ c₀ e₀ r entries₀ opened _ _ _ _ _ written =>
      rw [written, List.getLast?_concat] at last
      cases last
      rw [opened] at h
      cases h
  | @publish c₀ errand wrote d loaded written =>
      rw [written] at last
      refine ⟨last, fun ⟨change, hresult⟩ => ?_⟩
      obtain ⟨-, hdocument⟩ := inv.printed last
      show (reloaded d w.registry).2.snapshot.globals = _
      -- what is published was loaded from the last document, whose globals are served already
      rw [inv.loaded loaded hdocument]
      exact globals_reloaded_of_eq fun r hr => inv.globals last hresult hr

theorem step (inv : Latest store w) (step : Step store w w') : Latest store w' := by
  have hexclusive := inv.exclusive.step step
  have heffect := step.effect inv.exclusive inv.tree
  cases heffect with
  | idle idle =>
      have hdocument : w'.document store = w.document store := idle.unchanged.document
      refine ⟨hexclusive, idle.unchanged.tree inv.tree, fun h => ?_, fun h hcontent => ?_,
        fun {c} _ _ _ _ h hresult hd => ?_⟩
      · rw [hdocument]
        exact inv.printed (idle.written ▸ h)
      · rw [hdocument] at hcontent
        rcases idle.loaded h with hloaded | rfl
        · exact inv.loaded hloaded hcontent
        · rw [resultOf_load_of_document hcontent]
      · rw [idle.written] at h
        have hwrote : (w.stage c).wrote?.isSome := by
          rw [mem_written (List.mem_of_getLast? h)]
          rfl
        rw [idle.result (.inr hwrote)] at hresult
        rw [idle.snapshot]
        exact inv.globals h hresult hd
  | @write _ c₀ e₀ r entries₀ opened edited document tree snapshot stage written =>
      have hstage : w'.stage c₀ = .reloading (.edit e₀) (some entries₀) := by
        rw [stage, Function.update_self]
      refine ⟨hexclusive, tree inv.tree, fun h => ?_, fun {c'} _ _ _ _ h _ => ?_,
        fun h hresult _ => ?_⟩
      · rw [written, List.getLast?_concat] at h
        cases h
        exact ⟨⟨r, edited⟩, document⟩
      · have hinside : (w'.stage c').isInside = true := by
          rw [h]
          rfl
        obtain rfl := hexclusive.alone hinside (by rw [hstage]; rfl : (w'.stage c₀).isInside = true)
        rw [hstage] at h
        cases h
      · rw [written, List.getLast?_concat] at h
        cases h
        rw [hstage] at hresult
        cases hresult
  | @publish c₀ errand wrote d loaded written =>
      have hdocument : (w.publish c₀ errand wrote d).document store = w.document store :=
        congrArg store.document (disk_reloaded d w.registry)
      refine ⟨hexclusive, ?_, fun h => ?_, fun {c'} _ _ _ _ h hcontent => ?_,
        fun {c} _ _ _ r h hresult hr => ?_⟩
      · show (reloaded d w.registry).2.disk.IsTree
        rw [disk_reloaded]
        exact inv.tree
      · rw [hdocument]
        exact inv.printed (written ▸ h)
      · rw [hdocument] at hcontent
        rcases eq_or_ne c' c₀ with rfl | hne
        · rw [stage_publish_self] at h
          cases h
        · rw [stage_publish_of_ne _ hne] at h
          exact inv.loaded h hcontent
      · rw [written] at h
        obtain ⟨-, hcontent⟩ := inv.printed h
        have hd := inv.loaded loaded hcontent
        show (reloaded d w.registry).2.snapshot.globals = r.globals
        rcases eq_or_ne c c₀ with rfl | hne
        · -- the call itself has published, for it has come to a result
          obtain rfl : d = readRoot r := hd.trans (by rw [hr]; rfl)
          rw [stage_publish_self] at hresult
          rcases globals_reloaded r w.registry with hnew | ⟨-, e, herror⟩
          · exact hnew
          · rw [herror] at hresult
            cases hresult
        · rw [stage_publish_of_ne _ hne] at hresult
          rw [hd]
          exact (globals_reloaded_of_eq fun r' hr' => inv.globals h hresult hr').trans
            (inv.globals h hresult hr)

theorem reaches (inv : Latest store w) (run : Reaches store w w') : Latest store w' := by
  induction run with
  | refl => exact inv
  | tail _ step ih => exact ih.step step

end Latest

end Conformity.Registry.Editors
