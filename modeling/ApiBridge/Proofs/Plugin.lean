import ApiBridge.Plugin
import ApiBridge.Proofs.Traffic

namespace ApiBridge

namespace PluginFactory

variable {factory : PluginFactory}

theorem transformer?_of_kind (h : factory.kind = .transformer) :
    ∃ make, factory = .transformer make ∧ factory.transformer? = some make := by
  cases factory with
  | transformer make => exact ⟨make, rfl, rfl⟩
  | connector make => cases h
  | auth make => cases h

theorem connector?_of_kind (h : factory.kind = .connector) :
    ∃ make, factory = .connector make ∧ factory.connector? = some make := by
  cases factory with
  | transformer make => cases h
  | connector make => exact ⟨make, rfl, rfl⟩
  | auth make => cases h

theorem provider?_of_kind (h : factory.kind = .auth) :
    ∃ make, factory = .auth make ∧ factory.provider? = some make := by
  cases factory with
  | transformer make => cases h
  | connector make => cases h
  | auth make => exact ⟨make, rfl, rfl⟩

end PluginFactory

theorem PluginKind.rank_inj {kind other : PluginKind} : kind.rank = other.rank ↔ kind = other := by
  cases kind <;> cases other <;> decide

namespace PluginKey

variable {key middle other : PluginKey}

theorem lexLt_irrefl (key : PluginKey) : ¬ Prod.lexLt key key := by
  rintro (hkind | ⟨-, hname⟩)
  · exact Nat.lt_irrefl _ hkind
  · exact String.lt_irrefl _ hname

theorem ne_of_lexLt (h : Prod.lexLt key other) : key ≠ other := by
  rintro rfl
  exact lexLt_irrefl key h

theorem lexLt_trans (h : Prod.lexLt key middle) (hother : Prod.lexLt middle other) :
    Prod.lexLt key other := by
  rcases h with hkind | ⟨hkind, hname⟩ <;> rcases hother with hkind' | ⟨hkind', hname'⟩
  · exact .inl (Nat.lt_trans hkind hkind')
  · exact .inl (hkind' ▸ hkind)
  · exact .inl (hkind ▸ hkind')
  · exact .inr ⟨hkind.trans hkind', String.lt_trans hname hname'⟩

theorem lexLt_asymm (h : Prod.lexLt key other) : ¬ Prod.lexLt other key :=
  fun hother => lexLt_irrefl key (lexLt_trans h hother)

theorem lexLt_or_lexLt (h : key ≠ other) : Prod.lexLt key other ∨ Prod.lexLt other key := by
  rcases Nat.lt_trichotomy key.1.rank other.1.rank with hlt | heq | hgt
  · exact .inl (.inl hlt)
  · have hkind : key.1 = other.1 := PluginKind.rank_inj.1 heq
    have hname : key.2 ≠ other.2 := fun hname => h (Prod.ext hkind hname)
    by_cases hbefore : key.2 < other.2
    · exact .inl (.inr ⟨hkind, hbefore⟩)
    · exact .inr (.inr ⟨hkind.symm, Std.lt_of_le_of_ne (String.not_lt.1 hbefore) hname.symm⟩)
  · exact .inr (.inl hgt)

end PluginKey

namespace PluginRegistry

variable {registry : PluginRegistry} {name : String} {factory : PluginFactory} {key : PluginKey}

theorem mem_insert {plugin : PluginKey × PluginFactory}
    (hplugin : plugin ∈ (registry.insert name factory).plugins) :
    plugin = ((factory.kind, name), factory) ∨ plugin ∈ registry.plugins := by
  rcases List.mem_append.1 hplugin with hbefore | hplugin
  · exact .inr (List.mem_of_mem_filter hbefore)
  · exact (List.mem_cons.1 hplugin).imp_right List.mem_of_mem_filter

theorem find?_filter_key (plugins : List (PluginKey × PluginFactory)) (test : PluginKey → Bool)
    (key : PluginKey) :
    ((plugins.filter fun plugin => test plugin.1).find? fun plugin => plugin.1 = key) =
      if test key then plugins.find? fun plugin => plugin.1 = key else none := by
  rw [List.find?_filter]
  split
  · next htest =>
      congr 1
      funext plugin
      rw [decide_eq_decide, decide_eq_true_iff, and_iff_right_iff_imp]
      rintro rfl
      exact htest
  · next htest =>
      rw [List.find?_eq_none]
      intro plugin _ hplugin
      obtain ⟨hpassed, hkey⟩ := of_decide_eq_true hplugin
      exact htest (of_decide_eq_true hkey ▸ hpassed)

theorem find?_insert (registry : PluginRegistry) (name : String) (factory : PluginFactory)
    (key : PluginKey) :
    (registry.insert name factory).find? key =
      if (factory.kind, name) = key then some factory else registry.find? key := by
  rw [find?, insert, List.find?_append, List.find?_cons,
    find?_filter_key _ (fun other => Prod.lexLt other (factory.kind, name)),
    find?_filter_key _ (fun other => Prod.lexLt (factory.kind, name) other)]
  by_cases hkey : (factory.kind, name) = key
  · subst hkey
    simp [PluginKey.lexLt_irrefl]
  · -- A key that differs is on one side of the new one, and only that side keeps it.
    rcases PluginKey.lexLt_or_lexLt hkey with hbehind | hbefore
    · simp [hkey, hbehind, PluginKey.lexLt_asymm hbehind, find?]
    · simp [hkey, hbefore, PluginKey.lexLt_asymm hbefore, find?]

/-- Whether the keys of a registry are in their order, so that each of them is there once, and each
has the kind of what is registered under it. -/
structure IsCoherent (registry : PluginRegistry) : Prop where
  ordered : registry.plugins.Pairwise fun plugin other => Prod.lexLt plugin.1 other.1
  kind_eq : ∀ plugin ∈ registry.plugins, plugin.2.kind = plugin.1.1

theorem isCoherent_empty : empty.IsCoherent where
  ordered := List.Pairwise.nil
  kind_eq _ hplugin := absurd hplugin List.not_mem_nil

theorem IsCoherent.insert (h : registry.IsCoherent) (name : String) (factory : PluginFactory) :
    (registry.insert name factory).IsCoherent where
  ordered := by
    refine List.pairwise_append.2
      ⟨h.ordered.filter _, List.pairwise_cons.2 ⟨?_, h.ordered.filter _⟩, ?_⟩
    · intro behind hbehind
      exact of_decide_eq_true (List.mem_filter.1 hbehind).2
    · intro before hbefore other hother
      have hkey : Prod.lexLt before.1 (factory.kind, name) :=
        of_decide_eq_true (List.mem_filter.1 hbefore).2
      rcases List.mem_cons.1 hother with rfl | hbehind
      · exact hkey
      · exact PluginKey.lexLt_trans hkey (of_decide_eq_true (List.mem_filter.1 hbehind).2)
  kind_eq := by
    intro plugin hplugin
    rcases mem_insert hplugin with rfl | hplugin
    · rfl
    · exact h.kind_eq plugin hplugin

theorem IsCoherent.kind_of_find? (h : registry.IsCoherent)
    (hfind : registry.find? key = some factory) : factory.kind = key.1 := by
  obtain ⟨plugin, hplugin, rfl⟩ := Option.map_eq_some_iff.1 hfind
  have hkey : plugin.1 = key := by simpa using List.find?_some hplugin
  rw [← hkey]
  exact h.kind_eq plugin (List.mem_of_find?_eq_some hplugin)

theorem isSome_find?_iff : (registry.find? key).isSome ↔ key ∈ registry.keys := by
  simp [find?, keys]

end PluginRegistry

/-- A call that registers a plugin. -/
structure Registration where
  name : String
  factory : PluginFactory

namespace Registration

def key (call : Registration) : PluginKey := (call.factory.kind, call.name)

/-- What is registered in the built-in registry. -/
def builtin : List Registration :=
  [{ name := "rest", factory := .connector Activity.openConnector },
    { name := "sse", factory := .connector fun definition =>
        EventSource.connector <$> Activity.openEventSource definition },
    { name := "static", factory := .auth fun _ => .ok staticAuth }]

/-- What was registered last under a key. -/
def latest? (history : List Registration) (key : PluginKey) : Option PluginFactory :=
  (history.reverse.find? fun call => call.key = key).map factory

theorem latest?_cons (call : Registration) (history : List Registration) (key : PluginKey) :
    latest? (call :: history) key =
      (latest? history key).or (if call.key = key then some call.factory else none) := by
  rw [latest?, List.reverse_cons, List.find?_append, Option.map_or, ← latest?]
  by_cases hkey : call.key = key <;> simp [hkey]

variable {history : List Registration} {wanted : PluginKey}

theorem latest?_eq_none_iff :
    latest? history wanted = none ↔ ∀ call ∈ history, call.key ≠ wanted := by
  simp [latest?]

theorem isSome_latest?_iff :
    (latest? history wanted).isSome ↔ ∃ call ∈ history, call.key = wanted := by
  simp [latest?]

end Registration

namespace PluginRegistry

open Registration

variable {registry : PluginRegistry} {name : String}

def register (registry : PluginRegistry) (call : Registration) : PluginRegistry :=
  match call.factory with
  | .transformer make => registry.addTransformer call.name make
  | .connector make => registry.addConnector call.name make
  | .auth make => registry.addProvider call.name make

def registerAll (registry : PluginRegistry) (calls : List Registration) : PluginRegistry :=
  calls.foldl register registry

theorem register_eq (registry : PluginRegistry) (call : Registration) :
    registry.register call = registry.insert call.name call.factory := by
  rcases call with ⟨name, factory⟩
  cases factory <;> rfl

theorem builtin_eq : builtin = empty.registerAll Registration.builtin := rfl

theorem registerAll_cons (registry : PluginRegistry) (call : Registration)
    (calls : List Registration) :
    registry.registerAll (call :: calls) = (registry.register call).registerAll calls :=
  rfl

theorem registerAll_append (registry : PluginRegistry) (calls others : List Registration) :
    registry.registerAll (calls ++ others) = (registry.registerAll calls).registerAll others :=
  List.foldl_append

theorem IsCoherent.registerAll (h : registry.IsCoherent) (calls : List Registration) :
    (registry.registerAll calls).IsCoherent := by
  induction calls generalizing registry with
  | nil => exact h
  | cons call calls ih =>
      rw [registerAll_cons, register_eq]
      exact ih (h.insert call.name call.factory)

theorem find?_registerAll (registry : PluginRegistry) (calls : List Registration)
    (key : PluginKey) :
    (registry.registerAll calls).find? key = (latest? calls key).or (registry.find? key) := by
  induction calls generalizing registry with
  | nil => rfl
  | cons call calls ih =>
      rw [registerAll_cons, ih, register_eq, find?_insert, latest?_cons, Option.or_assoc,
        Registration.key]
      split <;> rfl

theorem factory_eq_ok_iff {kind : PluginKind} {factory : PluginFactory} :
    registry.factory kind name = .ok factory ↔ registry.find? (kind, name) = some factory := by
  rw [PluginRegistry.factory]
  cases registry.find? (kind, name) <;> simp

theorem factory_eq_error_iff {kind : PluginKind} {error : Error} :
    registry.factory kind name = .error error ↔
      registry.find? (kind, name) = none ∧ error = missing kind name := by
  rw [PluginRegistry.factory]
  cases registry.find? (kind, name) with
  | none => simp [eq_comm]
  | some factory => simp

theorem list_none (registry : PluginRegistry) : registry.list none = registry.keys := by
  simp [list]

/-- Whether what a registry has, finds and lists is what its registrations, first to last, come
to. -/
structure Reflects (registry : PluginRegistry) (history : List Registration) : Prop where
  kind_eq : ∀ plugin ∈ registry.plugins, plugin.2.kind = plugin.1.1
  factory_eq_ok : ∀ kind name factory,
    registry.factory kind name = .ok factory ↔ latest? history (kind, name) = some factory
  /-- No look-up meets a factory of another kind than the one it asks for. -/
  kind_of_factory : ∀ kind name factory,
    registry.factory kind name = .ok factory → factory.kind = kind
  factory_eq_error : ∀ kind name error, registry.factory kind name = .error error ↔
    (∀ call ∈ history, call.key ≠ (kind, name)) ∧
      error = .config ("Plugin not found: " ++ kind.name ++ "." ++ name)
  /-- Registrations under other keys leave what is found. -/
  factory_registerAll : ∀ kind name others, (∀ call ∈ others, call.key ≠ (kind, name)) →
    (registry.registerAll others).factory kind name = registry.factory kind name
  transformer_eq : ∀ name params,
    (∃ make, latest? history (.transformer, name) = some (.transformer make) ∧
      registry.transformer name params = make params) ∨
    (∀ call ∈ history, call.key ≠ (.transformer, name)) ∧
      registry.transformer name params = .error (missing .transformer name)
  connector_eq : ∀ name definition,
    (∃ make, latest? history (.connector, name) = some (.connector make) ∧
      registry.connector name definition = make definition) ∨
    (∀ call ∈ history, call.key ≠ (.connector, name)) ∧
      registry.connector name definition = throw (missing .connector name)
  provider_eq : ∀ name params,
    (∃ make, latest? history (.auth, name) = some (.auth make) ∧
      registry.provider name params = make params) ∨
    (∀ call ∈ history, call.key ≠ (.auth, name)) ∧
      registry.provider name params = .error (missing .auth name)
  contains_iff : ∀ kind name,
    registry.contains kind name = true ↔ ∃ call ∈ history, call.key = (kind, name)
  mem_list : ∀ key, key ∈ registry.list none ↔ ∃ call ∈ history, call.key = key
  list_nodup : (registry.list none).Nodup
  /-- The keys are listed by kind, and those of a kind by name. -/
  list_ordered : (registry.list none).Pairwise fun key other =>
    key.1.rank < other.1.rank ∨ key.1 = other.1 ∧ key.2 < other.2
  list_some : ∀ kind,
    registry.list (some kind) = (registry.list none).filter fun key => key.1 = kind

theorem IsCoherent.maker_cases (h : registry.IsCoherent) {history : List Registration}
    (hfind : ∀ key, registry.find? key = latest? history key) {α : Type} {kind : PluginKind}
    {select : PluginFactory → Option α} {wrap : α → PluginFactory}
    (hselect : ∀ {factory : PluginFactory}, factory.kind = kind →
      ∃ make, factory = wrap make ∧ select factory = some make) (name : String) :
    (∃ make, latest? history (kind, name) = some (wrap make) ∧
      registry.maker kind select name = .ok make) ∨
    (∀ call ∈ history, call.key ≠ (kind, name)) ∧
      registry.maker kind select name = .error (missing kind name) := by
  cases hfound : registry.find? (kind, name) with
  | none =>
      refine .inr ⟨latest?_eq_none_iff.1 (hfind _ ▸ hfound), ?_⟩
      rw [maker, factory_eq_error_iff.2 ⟨hfound, rfl⟩]
      rfl
  | some factory =>
      obtain ⟨make, rfl, hmake⟩ := hselect (h.kind_of_find? hfound)
      refine .inl ⟨make, hfind _ ▸ hfound, ?_⟩
      simp only [maker, factory_eq_ok_iff.2 hfound, bind, Except.bind, hmake]

theorem IsCoherent.reflects (h : registry.IsCoherent) {history : List Registration}
    (hfind : ∀ key, registry.find? key = latest? history key) : registry.Reflects history where
  kind_eq := h.kind_eq
  factory_eq_ok kind name factory := by rw [factory_eq_ok_iff, hfind]
  kind_of_factory kind name factory hfactory := h.kind_of_find? (factory_eq_ok_iff.1 hfactory)
  factory_eq_error kind name error := by
    rw [factory_eq_error_iff, hfind, latest?_eq_none_iff, missing]
  factory_registerAll kind name others hothers := by
    rw [factory, find?_registerAll, latest?_eq_none_iff.2 hothers, Option.none_or, ← factory]
  transformer_eq name params := by
    rcases h.maker_cases hfind PluginFactory.transformer?_of_kind name with
      ⟨make, hlatest, hmaker⟩ | ⟨hnone, hmaker⟩
    · exact .inl ⟨make, hlatest, by rw [transformer, hmaker]; rfl⟩
    · exact .inr ⟨hnone, by rw [transformer, hmaker]; rfl⟩
  connector_eq name definition := by
    rcases h.maker_cases hfind PluginFactory.connector?_of_kind name with
      ⟨make, hlatest, hmaker⟩ | ⟨hnone, hmaker⟩
    · exact .inl ⟨make, hlatest, by rw [connector, hmaker, Activity.ofResult_ok_bind]⟩
    · exact .inr ⟨hnone, by rw [connector, hmaker]; rfl⟩
  provider_eq name params := by
    rcases h.maker_cases hfind PluginFactory.provider?_of_kind name with
      ⟨make, hlatest, hmaker⟩ | ⟨hnone, hmaker⟩
    · exact .inl ⟨make, hlatest, by rw [provider, hmaker]; rfl⟩
    · exact .inr ⟨hnone, by rw [provider, hmaker]; rfl⟩
  contains_iff kind name := by
    rw [contains, List.contains_iff_mem, ← isSome_find?_iff, hfind, isSome_latest?_iff]
  mem_list key := by rw [list_none, ← isSome_find?_iff, hfind, isSome_latest?_iff]
  list_nodup := by
    rw [list_none]
    exact List.pairwise_map.2 (h.ordered.imp PluginKey.ne_of_lexLt)
  list_ordered := by
    rw [list_none]
    exact List.pairwise_map.2 h.ordered
  list_some kind := by
    rw [list_none, list]
    rfl

/-- Whatever is registered in an empty registry or in the built-in one, the registry has the keys of
these registrations, each once and in order, and finds under each what was registered last, which is
of its kind. -/
theorem reflects_of_registrations (calls : List Registration) :
    (empty.registerAll calls).Reflects calls ∧
      (builtin.registerAll calls).Reflects (Registration.builtin ++ calls) := by
  have hreflects (history : List Registration) : (empty.registerAll history).Reflects history :=
    (isCoherent_empty.registerAll history).reflects fun key => by
      rw [find?_registerAll]
      exact Option.or_none
  refine ⟨hreflects calls, ?_⟩
  rw [builtin_eq, ← registerAll_append]
  exact hreflects (Registration.builtin ++ calls)

/-- Where a key has a factory of another kind, which no registrations lead to, it is refused. -/
example (make : Table Json → Except Error AuthProvider) :
    transformer { plugins := [((.transformer, "upper"), .auth make)] } "upper" [] =
      .error (.config "Plugin upper is not a transformer") := by
  rfl

end PluginRegistry

end ApiBridge
