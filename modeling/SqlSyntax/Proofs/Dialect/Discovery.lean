import SqlSyntax.Dialect.Catalog
import SqlSyntax.Proofs.Dialect.Listing
import SqlSyntax.Proofs.View.Data

/-!
# Searching a directory for configurations

A search gives what loading each directory on its own would give, in the order of the directories
and without those that fail. Loads that came before, or that the search itself makes, do not change
that: only complete configurations are kept, and what is kept stays whatever happens to the files.
All this holds for any reader of configurations.

Two kinds of configuration end the search instead of being passed over: one that is unreadable for a
reason outside the families that the search reckons with, and one that was read but cannot be
logged. The reader in use has both: a number may overflow on the way to its value, and a name may be
an integer too long to be written.
-/

namespace SqlSyntax

namespace Catalog

variable {α : Type} {r : ConfigReader α} {c later : Catalog α} {directory path other : List String}
  {paths : List (List String)} {v : α} {e : LoadError} {h : Halt}

/-! ### One load -/

/-- The key under which the configuration of a directory is kept. -/
def keyOf (c : Catalog α) (path : List String) : String :=
  c.pathText (path ++ [configName])

theorem load_cases (r : ConfigReader α) (c : Catalog α) (path : List String) :
    (∃ v, c.cache.get? (c.keyOf path) = some v ∧ c.load r path = (c, .ok v)) ∨
    (∃ v, c.cache.get? (c.keyOf path) = none ∧ c.readConfig r (path ++ [configName]) = .ok v ∧
      c.load r path = ({ c with cache := c.cache.put (c.keyOf path) v }, .ok v)) ∨
    (∃ e, c.cache.get? (c.keyOf path) = none ∧ c.readConfig r (path ++ [configName]) = .error e ∧
      c.load r path = (c, .error e)) := by
  cases cached : c.cache.get? (c.keyOf path) with
  | some v => exact .inl ⟨v, rfl, by rw [load, ← keyOf, cached]⟩
  | none =>
    cases read : c.readConfig r (path ++ [configName]) with
    | ok v => exact .inr (.inl ⟨v, rfl, rfl, by rw [load, ← keyOf, cached, read]⟩)
    | error e => exact .inr (.inr ⟨e, rfl, rfl, by rw [load, ← keyOf, cached, read]⟩)

theorem load_of_cached (cached : c.cache.get? (c.keyOf path) = some v) :
    c.load r path = (c, .ok v) := by
  rw [load, ← keyOf, cached]

theorem load_of_unreadable {text : String} {fault : ReadError}
    (fresh : c.cache.get? (c.keyOf path) = none)
    (written : c.files.item? (path ++ [configName]) = some (.file text))
    (unreadable : r.read text = .error fault) :
    c.load r path = (c, .error (.unreadable fault)) := by
  rw [load, ← keyOf, fresh, readConfig, written]
  simp only [unreadable]

theorem load_error_unchanged (failed : (c.load r path).2 = .error e) : (c.load r path).1 = c := by
  rcases load_cases r c path with ⟨v, -, same⟩ | ⟨v, -, -, same⟩ | ⟨e, -, -, same⟩
  · rw [same]
  · rw [same] at failed
    cases failed
  · rw [same]

theorem cached_of_load (loaded : (c.load r path).2 = .ok v) :
    (c.load r path).1.cache.get? (c.keyOf path) = some v := by
  rcases load_cases r c path with ⟨w, cached, same⟩ | ⟨w, -, -, same⟩ | ⟨e, -, -, same⟩
  all_goals
    rw [same] at loaded ⊢
    cases loaded
  · exact cached
  · rw [Entries.get?_put, if_pos rfl]

/-! ### What stays -/

/-- The catalog has the same root, and everything that the other has kept. -/
structure Extends (later c : Catalog α) : Prop where
  root : later.root = c.root
  kept : ∀ key v, c.cache.get? key = some v → later.cache.get? key = some v

theorem Extends.refl (c : Catalog α) : Extends c c :=
  ⟨rfl, fun _ _ kept => kept⟩

theorem Extends.trans {last : Catalog α} (second : Extends last later) (first : Extends later c) :
    Extends last c :=
  ⟨second.root.trans first.root, fun key v kept => second.kept key v (first.kept key v kept)⟩

theorem Extends.keyOf (grown : Extends later c) (path : List String) :
    later.keyOf path = c.keyOf path := by
  rw [Catalog.keyOf, Catalog.keyOf, pathText, pathText, grown.root]

theorem extends_load (r : ConfigReader α) (c : Catalog α) (path : List String) :
    Extends (c.load r path).1 c := by
  rcases load_cases r c path with ⟨v, -, same⟩ | ⟨v, fresh, -, same⟩ | ⟨e, -, -, same⟩ <;> rw [same]
  · exact .refl c
  · refine ⟨rfl, ?_⟩
    intro key w kept
    have other : key ≠ c.keyOf path := by
      rintro rfl
      simp [fresh] at kept
    rw [Entries.get?_put, if_neg other, kept]
  · exact .refl c

theorem files_load (r : ConfigReader α) (c : Catalog α) (path : List String) :
    (c.load r path).1.files = c.files := by
  rcases load_cases r c path with ⟨v, -, same⟩ | ⟨v, -, -, same⟩ | ⟨e, -, -, same⟩ <;> rw [same]

theorem Extends.load_of_load (loaded : (c.load r path).2 = .ok v)
    (grown : Extends later (c.load r path).1) : (later.load r path).2 = .ok v := by
  have cached : later.cache.get? (later.keyOf path) = some v := by
    rw [(grown.trans (extends_load r c path)).keyOf]
    exact grown.kept _ _ (cached_of_load loaded)
  rw [load_of_cached cached]

/-- What every load keeps, a search keeps. -/
theorem collect_preserves {P : Catalog α → Prop} (step : ∀ c path, P c → P (c.load r path).1)
    (holds : P c) (paths : List (List String)) : P (c.collect r paths).1 := by
  induction paths generalizing c with
  | nil => exact holds
  | cons path rest ih =>
    have loaded : P (c.load r path).1 := step c path holds
    rw [collect]
    split
    all_goals
      rename_i next _ same
      have next : P next := by simpa [same] using loaded
      split
    · exact ih next
    · exact next
    · exact ih next
    · exact next

theorem discover_preserves {P : Catalog α → Prop} (step : ∀ c path, P c → P (c.load r path).1)
    (holds : P c) (directory : List String) : P (c.discover r directory).1 := by
  rw [discover]
  split
  · exact holds
  · exact holds
  · exact collect_preserves step holds _

/-! ### What is kept -/

/-- A mapping with all required fields. -/
def Complete (r : ConfigReader α) (v : α) : Prop :=
  ∀ field ∈ requiredFields, r.has v field

theorem complete_of_readConfig (read : c.readConfig r path = .ok v) : Complete r v := by
  rw [readConfig] at read
  split at read
  · simp at read
  · simp at read
  · split at read
    · simp at read
    · rename_i w _
      rw [complete] at read
      split at read
      · simp at read
      · rename_i all
        obtain rfl : w = v := by simpa using read
        intro field required
        simpa using List.find?_eq_none.mp all field required

/-- Only complete configurations are kept, and the files form a proper tree. -/
structure Sound (r : ConfigReader α) (c : Catalog α) : Prop where
  complete : ∀ key v, c.cache.get? key = some v → Complete r v
  proper : c.files.Proper

theorem Sound.load (sound : c.Sound r) (path : List String) : (c.load r path).1.Sound r := by
  refine ⟨?_, files_load r c path ▸ sound.proper⟩
  rcases load_cases r c path with ⟨v, -, same⟩ | ⟨v, -, read, same⟩ | ⟨e, -, -, same⟩ <;> rw [same]
  · exact sound.complete
  · intro key w kept
    rw [Entries.get?_put] at kept
    split at kept
    · obtain rfl : v = w := by simpa using kept
      exact complete_of_readConfig read
    · exact sound.complete key w kept
  · exact sound.complete

/-- What happens to a catalog and to the files below it. -/
inductive Event where
  | load (path : List String)
  | discover (directory : List String)
  | write (path : List String) (text : String)
  | makeDirectory (path : List String)
  /-- The files are changed in some other way. -/
  | replace (files : Files.Tree)

/-- The catalog afterwards; a write that fails changes nothing. -/
def after (r : ConfigReader α) (c : Catalog α) : Event → Catalog α
  | .load path => (c.load r path).1
  | .discover directory => (c.discover r directory).1
  | .write path text => { c with files := (c.files.write path text).toOption.getD c.files }
  | .makeDirectory path => { c with files := (c.files.makeDirectory path).toOption.getD c.files }
  | .replace files => { c with files := files.1 }

def run (r : ConfigReader α) (c : Catalog α) (events : List Event) : Catalog α :=
  events.foldl (after r) c

/-- Nothing is kept yet, and there are no files. -/
def start (root : String) : Catalog α :=
  ⟨root, [], []⟩

theorem extends_after (r : ConfigReader α) (c : Catalog α) (event : Event) :
    Extends (c.after r event) c := by
  have step (d : Catalog α) (path : List String) (grown : Extends d c) :
      Extends (d.load r path).1 c := (extends_load r d path).trans grown
  cases event with
  | load path => exact extends_load r c path
  | discover directory => exact discover_preserves step (.refl c) directory
  | _ => exact ⟨rfl, fun _ _ kept => kept⟩

theorem extends_run (r : ConfigReader α) (c : Catalog α) (events : List Event) :
    Extends (c.run r events) c := by
  induction events generalizing c with
  | nil => exact .refl c
  | cons event rest ih => exact (ih (c.after r event)).trans (extends_after r c event)

theorem Sound.after (sound : c.Sound r) (event : Event) : (c.after r event).Sound r := by
  have changed {changed : Except Files.Obstacle Files}
      (proper : ∀ made, changed = .ok made → made.Proper) :
      (changed.toOption.getD c.files).Proper := by
    cases changed with
    | ok made => exact proper made rfl
    | error _ => exact sound.proper
  cases event with
  | load path => exact sound.load path
  | discover directory =>
    exact discover_preserves (fun _ path sound => sound.load path) sound directory
  | write path text => exact ⟨sound.complete, changed fun _ => sound.proper.write⟩
  | makeDirectory path => exact ⟨sound.complete, changed fun _ => sound.proper.makeDirectory⟩
  | replace files => exact ⟨sound.complete, files.2⟩

theorem Sound.run (sound : c.Sound r) (events : List Event) : (c.run r events).Sound r := by
  induction events generalizing c with
  | nil => exact sound
  | cons event rest ih => exact ih (sound.after event)

theorem sound_start (root : String) : (start root).Sound r :=
  ⟨fun key v kept => by simp [start, Entries.get?] at kept, .nil⟩

/-! ### Loads side by side -/

theorem intercalate_concat (separator last : List Char) (parts : List (List Char)) :
    ∃ before, ∀ part : List Char,
      separator.intercalate (parts ++ [part, last]) = before ++ part ++ (separator ++ last) := by
  induction parts with
  | nil => exact ⟨[], fun part => by simp [List.intercalate]⟩
  | cons first rest ih =>
    obtain ⟨before, same⟩ := ih
    refine ⟨first ++ separator ++ before, fun part => ?_⟩
    have more : rest ++ [part, last] ≠ [] := by simp
    rw [List.cons_append, List.intercalate_cons_of_ne_nil more, same]
    simp

/-- Directories side by side keep their configurations apart. -/
theorem keyOf_concat_injective (c : Catalog α) (directory : List String) {name name' : String}
    (same : c.keyOf (directory ++ [name]) = c.keyOf (directory ++ [name'])) : name = name' := by
  obtain ⟨before, written⟩ := intercalate_concat "/".toList configName.toList
    ((c.root :: directory).map String.toList)
  have key (name : String) : (c.keyOf (directory ++ [name])).toList =
      before ++ name.toList ++ ("/".toList ++ configName.toList) := by
    rw [← written, keyOf, pathText, String.toList_intercalate]
    simp
  rw [← String.toList_inj, key, key] at same
  exact String.toList_inj.mp (List.append_cancel_left (List.append_cancel_right same))

/-- A load does not change what another one gives. -/
theorem load_after_load (r : ConfigReader α) (c : Catalog α)
    (apart : c.keyOf path = c.keyOf other → path = other) :
    ((c.load r path).1.load r other).2 = (c.load r other).2 := by
  rcases load_cases r c path with ⟨v, -, same⟩ | ⟨v, -, -, same⟩ | ⟨e, -, -, same⟩
  · rw [same]
  · by_cases equal : path = other
    · subst equal
      rw [(Extends.refl _).load_of_load (v := v) (by rw [same]), same]
    · have differ : c.keyOf other ≠ c.keyOf path := fun same => equal (apart same.symm)
      rw [same]
      have read : readConfig r { c with cache := c.cache.put (c.keyOf path) v } =
        c.readConfig r := rfl
      have key : keyOf { c with cache := c.cache.put (c.keyOf path) v } = c.keyOf := rfl
      rw [load, load, ← keyOf, ← keyOf, read, key, Entries.get?_put, if_neg differ]
      split
      · rfl
      · split <;> rfl
  · rw [same]

/-- Directories directly below one are loaded without regard to each other. -/
theorem load_beside (r : ConfigReader α) (c : Catalog α)
    (below : ∃ name, path = directory ++ [name])
    (below' : ∃ name, other = directory ++ [name]) :
    ((c.load r path).1.load r other).2 = (c.load r other).2 := by
  obtain ⟨name, rfl⟩ := below
  obtain ⟨name', rfl⟩ := below'
  apply load_after_load
  intro same
  rw [keyOf_concat_injective c directory same]

/-! ### What ends a search -/

/-- A search ends at a directory whose load gives that. -/
inductive Halts (r : ConfigReader α) : Except LoadError α → Halt → Prop
  | broken {e : ReadError} (foreign : e.family = .other) :
    Halts r (.error (.unreadable e)) (.broken (.unreadable e))
  | unlogged {v : α} {fault : Fault} (untold : r.report v = .error fault) :
    Halts r (.ok v) (.unlogged fault)

/-- A search goes on behind a directory whose load gives that. -/
def Spared (r : ConfigReader α) (loaded : Except LoadError α) : Prop :=
  ∀ h, ¬ Halts r loaded h

theorem halts_error_iff : Halts r (.error e) h ↔ e.isPassedOver = false ∧ h = .broken e := by
  constructor
  · rintro ⟨foreign⟩
    simp [LoadError.isPassedOver, LoadError.family, foreign]
  · rintro ⟨stopped, rfl⟩
    cases e with
    | unreadable e =>
      exact .broken (by simpa [LoadError.isPassedOver, LoadError.family] using stopped)
    | _ => cases stopped

theorem halts_ok_iff :
    Halts r (.ok v) h ↔ ∃ fault, r.report v = .error fault ∧ h = .unlogged fault := by
  constructor
  · rintro (_ | untold)
    exact ⟨_, untold, rfl⟩
  · rintro ⟨fault, untold, rfl⟩
    exact .unlogged untold

theorem collect_of_halts (rest : List (List String)) (halts : Halts r (c.load r path).2 h) :
    c.collect r (path :: rest) = ((c.load r path).1, .error h) := by
  rcases loaded : c.load r path with ⟨next, e | v⟩
  all_goals
    rw [loaded] at halts
    rw [collect, loaded]
  · obtain ⟨stopped, rfl⟩ := halts_error_iff.mp halts
    simp [stopped]
  · obtain ⟨fault, untold, rfl⟩ := halts_ok_iff.mp halts
    simp [untold]

theorem collect_of_spared (rest : List (List String)) (spared : Spared r (c.load r path).2) :
    c.collect r (path :: rest) =
      (((c.load r path).1.collect r rest).1,
        ((c.load r path).1.collect r rest).2.map ((c.load r path).2.toOption.toList ++ ·)) := by
  rcases loaded : c.load r path with ⟨next, e | v⟩
  all_goals
    rw [loaded] at spared
    rw [collect, loaded]
  · have passed : e.isPassedOver = true :=
      eq_true_of_ne_false fun stopped => spared _ (halts_error_iff.mpr ⟨stopped, rfl⟩)
    rcases collected : next.collect r rest with ⟨last, e | found⟩ <;>
      simp [passed, collected, Except.toOption, Except.map]
  · cases reported : r.report v with
    | ok _ => simp [reported, Except.toOption]
    | error fault => exact absurd (.unlogged reported) (spared _)

/-! ### Whole searches -/

/-- The directories lie directly below one. -/
def Below (directory : List String) (paths : List (List String)) : Prop :=
  ∀ path ∈ paths, ∃ name, path = directory ++ [name]

theorem collect_found (below : Below directory paths)
    (spared : ∀ path ∈ paths, Spared r (c.load r path).2) :
    (c.collect r paths).2 = .ok (paths.filterMap fun path => (c.load r path).2.toOption) := by
  induction paths generalizing c with
  | nil => rfl
  | cons path rest ih =>
    obtain ⟨first, spared⟩ := List.forall_mem_cons.mp spared
    obtain ⟨here, below⟩ := List.forall_mem_cons.mp below
    have beside : ∀ other ∈ rest, ((c.load r path).1.load r other).2 = (c.load r other).2 :=
      fun other member => load_beside r c here (below other member)
    have same : (rest.filterMap fun other => ((c.load r path).1.load r other).2.toOption) =
        rest.filterMap fun other => (c.load r other).2.toOption :=
      List.filterMap_congr fun other member => congrArg _ (beside other member)
    have spared : ∀ other ∈ rest, Spared r ((c.load r path).1.load r other).2 := by
      intro other member
      rw [beside other member]
      exact spared other member
    rw [collect_of_spared rest first, ih below spared, same, List.filterMap_cons]
    cases (c.load r path).2 <;> rfl

/-- A search comes as far as the first directory that ends it, and so do its loads. -/
theorem collect_reaches {before after : List (List String)} (below : Below directory before)
    (here : ∃ name, path = directory ++ [name])
    (spared : ∀ earlier ∈ before, Spared r (c.load r earlier).2) :
    (∀ h, Halts r (c.load r path).2 h → (c.collect r (before ++ path :: after)).2 = .error h) ∧
    ∀ v, (c.load r path).2 = .ok v →
      ((c.collect r (before ++ path :: after)).1.load r path).2 = .ok v := by
  induction before generalizing c with
  | nil =>
    refine ⟨fun h halts => by rw [List.nil_append, collect_of_halts after halts], ?_⟩
    intro v loaded
    refine Extends.load_of_load loaded ?_
    by_cases spared : Spared r (c.load r path).2
    · rw [List.nil_append, collect_of_spared after spared]
      exact collect_preserves (P := (Extends · (c.load r path).1))
        (fun d other grown => (extends_load r d other).trans grown) (.refl _) after
    · obtain ⟨h, halts⟩ := not_forall_not.mp spared
      rw [List.nil_append, collect_of_halts after halts]
      exact .refl _
  | cons earlier before ih =>
    obtain ⟨first, spared⟩ := List.forall_mem_cons.mp spared
    obtain ⟨there, below⟩ := List.forall_mem_cons.mp below
    have spared : ∀ other ∈ before, Spared r ((c.load r earlier).1.load r other).2 := by
      intro other member
      rw [load_beside r c there (below other member)]
      exact spared other member
    obtain ⟨halted, kept⟩ := ih below spared
    rw [load_beside r c there here] at halted kept
    rw [List.cons_append, collect_of_spared _ first]
    exact ⟨fun h halts => by rw [halted h halts]; rfl, kept⟩

/-! ### The directories that are searched -/

theorem mem_candidates_iff (proper : c.files.Proper) :
    path ∈ c.candidates directory ↔
      ∃ name, name ≠ ".." ∧ path = directory ++ [name] ∧ c.files.item? path = some .directory ∧
        (c.files.item? (path ++ [configName])).isSome := by
  rw [candidates, List.mem_filter, List.mem_map]
  simp only [proper.mem_names_iff_item?, Bool.and_eq_true, beq_iff_eq]
  constructor
  · rintro ⟨⟨name, ⟨forward, -⟩, rfl⟩, isDirectory, configured⟩
    exact ⟨name, forward, rfl, isDirectory, configured⟩
  · rintro ⟨name, forward, rfl, isDirectory, configured⟩
    exact ⟨⟨name, ⟨forward, by simp [isDirectory]⟩, rfl⟩, isDirectory, configured⟩

theorem below_candidates (c : Catalog α) (directory : List String) :
    Below directory (c.candidates directory) := by
  intro path member
  obtain ⟨name, -, rfl⟩ := List.mem_map.mp (List.mem_of_mem_filter member)
  exact ⟨name, rfl⟩

theorem candidates_ordered (proper : c.files.Proper) (directory : List String) :
    (c.candidates directory).Pairwise (· < ·) := by
  apply List.Pairwise.filter
  rw [List.pairwise_map]
  refine (proper.names_ordered directory).imp fun lower => ?_
  exact List.append_left_lt (List.Lex.rel lower)

/-! ### What a catalog promises -/

/-- What a search of a directory gives, told by what the single loads would give before it. -/
structure Searches (r : ConfigReader α) (c : Catalog α) (directory : List String) : Prop where
  ordered : (c.candidates directory).Pairwise (· < ·)
  candidate_iff : ∀ path, path ∈ c.candidates directory ↔
    ∃ name, name ≠ ".." ∧ path = directory ++ [name] ∧ c.files.item? path = some .directory ∧
      (c.files.item? (path ++ [configName])).isSome
  found : (∀ path ∈ c.candidates directory, Spared r (c.load r path).2) →
    (c.discover r directory).2 =
      .ok ((c.candidates directory).filterMap fun path => (c.load r path).2.toOption)
  halted : ∀ before path after h, c.candidates directory = before ++ path :: after →
    (∀ earlier ∈ before, Spared r (c.load r earlier).2) → Halts r (c.load r path).2 h →
      (c.discover r directory).2 = .error h
  kept : ∀ before path after v, c.candidates directory = before ++ path :: after →
    (∀ earlier ∈ before, Spared r (c.load r earlier).2) → (c.load r path).2 = .ok v →
      ((c.discover r directory).1.load r path).2 = .ok v

theorem Sound.searches (sound : c.Sound r)
    (isDirectory : c.files.item? directory = some .directory) : c.Searches r directory := by
  have searched : c.discover r directory = c.collect r (c.candidates directory) := by
    rw [discover, isDirectory]
  have below := below_candidates c directory
  refine ⟨candidates_ordered sound.proper directory, fun _ => mem_candidates_iff sound.proper,
    ?_, ?_, ?_⟩ <;> rw [searched]
  · exact collect_found below
  · intro before path after h split spared halts
    obtain ⟨below, here⟩ := List.forall_mem_append.mp (split ▸ below)
    rw [split]
    exact (collect_reaches below (List.forall_mem_cons.mp here).1 spared).1 h halts
  · intro before path after v split spared loaded
    obtain ⟨below, here⟩ := List.forall_mem_append.mp (split ▸ below)
    rw [split]
    exact (collect_reaches below (List.forall_mem_cons.mp here).1 spared).2 v loaded

/-- What holds of a catalog with any history behind it. -/
structure Reliable (r : ConfigReader α) (c : Catalog α) : Prop where
  complete : ∀ key v, c.cache.get? key = some v → Complete r v
  failed : ∀ path e, (c.load r path).2 = .error e → (c.load r path).1 = c
  lasting : ∀ path v, (c.load r path).2 = .ok v →
    ∀ events, (((c.load r path).1.run r events).load r path).2 = .ok v
  missing : ∀ directory, c.files.item? directory = none → c.discover r directory = (c, .ok [])
  searches : ∀ directory, c.files.item? directory = some .directory → c.Searches r directory

/-- Broken configurations do not hide the others, unless by an error of a family that the search
does not reckon with or by one that cannot be logged; only complete ones are kept, and they are kept
for good. -/
theorem discovers_what_loads (r : ConfigReader α) (root : String) (events : List Event) :
    ((start root).run r events).Reliable r := by
  have sound : ((start root).run r events).Sound r := (sound_start root).run events
  refine ⟨sound.complete, fun _ _ => load_error_unchanged, ?_, ?_, fun _ => sound.searches⟩
  · intro path v loaded later
    exact Extends.load_of_load loaded (extends_run r _ later)
  · intro directory missing
    rw [discover, missing]

end Catalog

/-! ### A configuration that hides the others -/

instance decidableEqExcept {ε α : Type} [DecidableEq ε] [DecidableEq α] :
    DecidableEq (Except ε α)
  | .ok a, .ok b => decidable_of_iff (a = b) (Except.ok.injEq a b ▸ Iff.rfl)
  | .error e, .error f => decidable_of_iff (e = f) (Except.error.injEq e f ▸ Iff.rfl)
  | .ok _, .error _ | .error _, .ok _ => isFalse nofun

namespace Yaml

theorem configReader_read {text : String} {fault : Fault} (unreadable : read text = .error fault) :
    configReader.read text = .error fault.toReadError := by
  simp only [configReader, unreadable, Except.mapError]

/-- A number with a point and a hundred and seventy-five places in base sixty. -/
def outOfRange : List Char :=
  '1' :: (List.replicate 174 [':', '0']).flatten ++ ['.', '0']

theorem number?_outOfRange : number? outOfRange = some (.error .worthOverflow) := by
  have whole : natural? outOfRange = none := by decide +kernel
  have parted : fraction? false outOfRange = some (.error .worthOverflow) := by decide +kernel
  have unnamed : ∀ name ∈ [".inf", ".Inf", ".INF", ".nan", ".NaN", ".NAN"],
      String.ofList outOfRange ≠ name := by decide +kernel
  have sign : unsigned outOfRange = (false, outOfRange) := rfl
  simp only [List.forall_mem_cons] at unnamed
  simp [number?, sign, whole, parted, unnamed, Except.map]

theorem resolve_of_number? {s : String} {read : Except Fault Value}
    (unnamed : ∀ name ∈ ["", "~", "null", "Null", "NULL", "yes", "Yes", "YES", "true", "True",
      "TRUE", "on", "On", "ON", "no", "No", "NO", "false", "False", "FALSE", "off", "Off", "OFF",
      mergeKey, defaultKey], s ≠ name)
    (number : number? s.toList = some read) : resolve s = read := by
  simp only [List.forall_mem_cons] at unnamed
  simp [resolve, unnamed, number]

theorem read_of_scalar {cs : List Char} (allowed : cs.all isAllowed)
    (cut : tokens (unifiedBreaks cs) = .ok [.scalar (String.ofList cs) true]) :
    read (String.ofList cs) = resolve (String.ofList cs) := by
  rw [read, String.toList_ofList, if_pos allowed, cut]
  rfl

/-- Its first place is worth more than any double, which is found out only when the value is
made. -/
theorem read_outOfRange : read (String.ofList outOfRange) = .error .worthOverflow := by
  have resolved : resolve (String.ofList outOfRange) = .error .worthOverflow := by
    refine resolve_of_number? (by decide +kernel) ?_
    rw [String.toList_ofList, number?_outOfRange]
  rw [read_of_scalar (by decide +kernel) (by decide +kernel), resolved]

end Yaml

namespace Catalog

/-- One directory has a configuration in order, the next a number that is out of range. -/
def obstructed : Catalog Value :=
  (start "root").run Yaml.configReader
    [.write ["a", configName] "name: a\nversion: '1'\naliases: []\n",
      .write ["b", configName] (String.ofList Yaml.outOfRange)]

theorem overflow_hides_others :
    (∃ v, (obstructed.load Yaml.configReader ["a"]).2 = .ok v) ∧ ["a"] ∈ obstructed.candidates [] ∧
      (obstructed.discover Yaml.configReader []).2 =
        .error (.broken (.unreadable Yaml.Fault.worthOverflow.toReadError)) := by
  have sound : obstructed.Sound Yaml.configReader := (sound_start "root").run _
  have names : obstructed.files.names [] = ["a", "b"] := by
    have below : (obstructed.files.map Prod.fst).filterMap (Files.nameBelow? []) = ["b", "a"] := by
      decide +kernel
    rw [Files.names_eq, Files.resolved, List.foldl_nil, List.reverse_nil, below]
    simp [List.mergeSort]
  have listed : obstructed.candidates [] = [["a"], ["b"]] := by
    rw [candidates, names]
    decide +kernel
  have first : (obstructed.load Yaml.configReader ["a"]).2.toOption.any Yaml.canReport = true := by
    decide +kernel
  have second : (obstructed.load Yaml.configReader ["b"]).2 =
      .error (.unreadable Yaml.Fault.worthOverflow.toReadError) := by
    have fresh : obstructed.cache = [] := rfl
    have written : obstructed.files.item? (["b"] ++ [configName]) =
        some (.file (String.ofList Yaml.outOfRange)) := by decide +kernel
    have unreadable : Yaml.configReader.read (String.ofList Yaml.outOfRange) =
        .error Yaml.Fault.worthOverflow.toReadError := Yaml.configReader_read Yaml.read_outOfRange
    rw [load_of_unreadable (by rw [fresh]; rfl) written unreadable]
  obtain ⟨v, loaded, reported⟩ :
      ∃ v, (obstructed.load Yaml.configReader ["a"]).2 = .ok v ∧ Yaml.canReport v = true := by
    cases loaded : (obstructed.load Yaml.configReader ["a"]).2 with
    | ok v => exact ⟨v, rfl, by simpa [loaded, Except.toOption] using first⟩
    | error e => simp [loaded, Except.toOption] at first
  have spared : ∀ earlier ∈ [["a"]],
      Spared Yaml.configReader (obstructed.load Yaml.configReader earlier).2 := by
    intro earlier member h halts
    rw [List.mem_singleton.mp member, loaded] at halts
    obtain ⟨fault, untold, -⟩ := halts_ok_iff.mp halts
    simp [Yaml.configReader, reported] at untold
  refine ⟨⟨v, loaded⟩, by simp [listed], ?_⟩
  exact (sound.searches rfl).halted [["a"]] ["b"] [] _ listed spared (second ▸ .broken rfl)

end Catalog

end SqlSyntax
