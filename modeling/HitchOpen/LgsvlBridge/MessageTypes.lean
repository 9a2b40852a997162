import HitchOpen.Library.Memo
import HitchOpen.LgsvlBridge.Client

/-!
# The types that the bridge has loaded

`MessageTypes` in `types.cc` finds a message type by its name: three libraries of the package are loaded,
and the symbols of the type are looked up in them.  The libraries that have been loaded and the types that
have been found are kept in two maps; what was not found is looked for again.

The loader is a parameter: what `dlopen` makes of a library and `dlsym` of a symbol.
-/

namespace HitchOpen.LgsvlBridge

open HitchOpen.Memo

/-- A name in the source. -/
def ascii (s : String) : Bytes := s.toUTF8.data.toList

structure Loader (η ψ : Type) where
  dlopen : Bytes → Option η
  dlsym : η → Bytes → Option ψ

/-- The symbols of a type.  The functions behind the first two give the type support and the description of
the members. -/
structure MessageType (ψ : Type) where
  typeSupport : ψ
  introspection : ψ
  init : ψ
  fini : ψ
  deriving DecidableEq

structure MessageTypes (η ψ : Type) where
  libraries : Table Bytes η
  messages : Table Bytes (MessageType ψ)
  /-- The libraries for which `dlopen` has been called, in this order. -/
  opened : List Bytes

namespace MessageTypes

variable {η ψ : Type} (l : Loader η ψ)

def new : MessageTypes η ψ := ⟨∅, ∅, []⟩

/-- The file of a library on Linux. -/
def lib (name : Bytes) : Bytes := ascii "lib" ++ name ++ ascii ".so"

/-- `load_lib` -/
def loadLib (name : Bytes) : Search (MessageTypes η ψ) η :=
  fetch libraries (fun t s => { s with libraries := t }) (do
    modify fun s => { s with opened := s.opened ++ [name] }
    .ofOption (l.dlopen (lib name))) name

/-- The package and the name, which the first slash separates. -/
def splitType (type : Bytes) : Option (Bytes × Bytes) :=
  match type.span (· ≠ 47) with
  | (_, []) => none
  | (package, _ :: name) => some (package, name)

/-- What `get` does about a type that it does not know. -/
def load (type : Bytes) : Search (MessageTypes η ψ) (MessageType ψ) := do
  let split ← .ofOption (splitType type)
  let package := split.1
  let name := package ++ ascii "__msg__" ++ split.2
  let typeSupportLib ← loadLib l (package ++ ascii "__rosidl_typesupport_c")
  let typeSupport ← .ofOption (l.dlsym typeSupportLib
    (ascii "rosidl_typesupport_c__get_message_type_support_handle__" ++ name))
  let introspectionLib ← loadLib l (package ++ ascii "__rosidl_typesupport_introspection_c")
  let introspection ← .ofOption (l.dlsym introspectionLib
    (ascii "rosidl_typesupport_introspection_c__get_message_type_support_handle__" ++ name))
  let generator ← loadLib l (package ++ ascii "__rosidl_generator_c")
  let init ← .ofOption (l.dlsym generator (name ++ ascii "__init"))
  let fini ← .ofOption (l.dlsym generator (name ++ ascii "__fini"))
  return ⟨typeSupport, introspection, init, fini⟩

def get (type : Bytes) : Search (MessageTypes η ψ) (MessageType ψ) :=
  fetch messages (fun t s => { s with messages := t }) (load l type) type

/-- The destructor unloads them. -/
def unloaded (s : MessageTypes η ψ) : List η := s.libraries.entries.map Sigma.snd

/-- The types asked for one after the other. -/
def getAll : List Bytes → MessageTypes η ψ → List (Option (MessageType ψ)) × MessageTypes η ψ
  | [], s => ([], s)
  | type :: types, s =>
      let first := (get l type).run.run s
      let rest := getAll types first.2
      (first.1 :: rest.1, rest.2)

/-! ### What it is for -/

/-- The type as it would be found if nothing were kept. -/
def resolve (type : Bytes) : Option (MessageType ψ) := do
  let split ← splitType type
  let package := split.1
  let name := package ++ ascii "__msg__" ++ split.2
  let typeSupportLib ← l.dlopen (lib (package ++ ascii "__rosidl_typesupport_c"))
  let typeSupport ← l.dlsym typeSupportLib
    (ascii "rosidl_typesupport_c__get_message_type_support_handle__" ++ name)
  let introspectionLib ← l.dlopen (lib (package ++ ascii "__rosidl_typesupport_introspection_c"))
  let introspection ← l.dlsym introspectionLib
    (ascii "rosidl_typesupport_introspection_c__get_message_type_support_handle__" ++ name)
  let generator ← l.dlopen (lib (package ++ ascii "__rosidl_generator_c"))
  let init ← l.dlsym generator (name ++ ascii "__init")
  let fini ← l.dlsym generator (name ++ ascii "__fini")
  return ⟨typeSupport, introspection, init, fini⟩

/-- The entry that an attempt to open a library makes. -/
def opening (name : Bytes) : Option ((_ : Bytes) × η) :=
  (l.dlopen (lib name)).map fun handle => ⟨name, handle⟩

/-- The libraries are those that could be opened, and the types are right. -/
structure Loaded (s : MessageTypes η ψ) : Prop where
  libraries : s.libraries.entries = (s.opened.filterMap (opening l)).reverse
  messages : Sound s.messages (resolve l)

theorem loaded_new : Loaded l (new : MessageTypes η ψ) := ⟨rfl, sound_empty _⟩

variable {l} {s : MessageTypes η ψ}

theorem Loaded.sound (h : Loaded l s) : Sound s.libraries fun name => l.dlopen (lib name) := by
  intro name handle hfind
  have hmem := AList.mem_lookup_iff.mp hfind
  rw [h.libraries, List.mem_reverse] at hmem
  obtain ⟨name', -, hopen⟩ := List.mem_filterMap.mp hmem
  obtain ⟨handle', hdlopen, heq⟩ := Option.map_eq_some_iff.mp hopen
  obtain ⟨rfl, hhandle⟩ := Sigma.mk.inj heq
  rw [← eq_of_heq hhandle]
  exact hdlopen

/-- A library comes from the table or is opened; either way it is what `dlopen` would bring. -/
theorem computes_loadLib (name : Bytes) : Computes (Loaded l) (loadLib l name) (l.dlopen (lib name)) := by
  apply computes_fetch (f := fun name => l.dlopen (lib name)) (fun _ h => h.sound)
  · exact fun _ _ _ => rfl
  · intro s h _ hnone
    refine ⟨?_, h.messages⟩
    show s.libraries.entries = ((s.opened ++ [name]).filterMap (opening l)).reverse
    have hopening : opening l name = none := by rw [opening, hnone, Option.map_none]
    rw [List.filterMap_append, List.filterMap_cons_none hopening, List.filterMap_nil, List.append_nil,
      h.libraries]
  · intro s handle h hmiss hsome
    refine ⟨?_, h.messages⟩
    show (s.libraries.insert name handle).entries = ((s.opened ++ [name]).filterMap (opening l)).reverse
    have hopening : opening l name = some ⟨name, handle⟩ := by rw [opening, hsome, Option.map_some]
    rw [AList.entries_insert_of_notMem (AList.lookup_eq_none.mp hmiss), List.filterMap_append,
      List.filterMap_cons_some hopening, List.filterMap_nil, List.reverse_append, List.reverse_singleton,
      List.singleton_append, h.libraries]

theorem computes_load (type : Bytes) : Computes (Loaded l) (load l type) (resolve l type) :=
  (computes_ofOption _).bind fun _ => (computes_loadLib _).bind fun _ => (computes_ofOption _).bind fun _ =>
    (computes_loadLib _).bind fun _ => (computes_ofOption _).bind fun _ => (computes_loadLib _).bind fun _ =>
      (computes_ofOption _).bind fun _ => (computes_ofOption _).bind fun _ => computes_pure _

theorem computes_get (type : Bytes) : Computes (Loaded l) (get l type) (resolve l type) := by
  apply computes_fetch (fun _ h => h.messages)
  · exact fun s h _ => (computes_load type s h).1
  · exact fun s h _ _ => (computes_load type s h).2
  · intro s found h _ hsome
    have hloaded := (computes_load type s h).2
    exact ⟨hloaded.libraries, hloaded.messages.insert hsome⟩

/-- **The maps change nothing.**  Whatever types have been asked for before, each answer is what it would
be if nothing were kept.  No library is opened a second time once it could be opened, and the destructor
unloads each of these once. -/
theorem getAll_resolves (l : Loader η ψ) (types : List Bytes) :
    (getAll l types new).1 = types.map (resolve l) ∧
      ((getAll l types new).2.opened.filter fun name => (l.dlopen (lib name)).isSome).Nodup ∧
      (unloaded (getAll l types new).2).Perm
        ((getAll l types new).2.opened.filterMap fun name => l.dlopen (lib name)) := by
  have hall : ∀ s : MessageTypes η ψ, Loaded l s →
      (getAll l types s).1 = types.map (resolve l) ∧ Loaded l (getAll l types s).2 := by
    induction types with
    | nil => exact fun s h => ⟨rfl, h⟩
    | cons type types ih =>
        intro s h
        obtain ⟨hanswer, hkeep⟩ := computes_get type s h
        obtain ⟨hrest, hend⟩ := ih _ hkeep
        exact ⟨by rw [getAll, List.map_cons, ← hanswer, ← hrest], hend⟩
  obtain ⟨hanswers, hloaded⟩ := hall new (loaded_new l)
  set s := (getAll l types new).2
  refine ⟨hanswers, ?_, ?_⟩
  · have hkeys : s.libraries.keys =
        (s.opened.filter fun name => (l.dlopen (lib name)).isSome).reverse := by
      show s.libraries.entries.map Sigma.fst = _
      rw [hloaded.libraries, List.map_reverse, List.map_filterMap, ← List.filterMap_eq_filter]
      congr 2
      funext name
      rw [opening]
      cases h : l.dlopen (lib name) <;> simp [Option.guard, h]
    have hnodup := s.libraries.keys_nodup
    rw [hkeys] at hnodup
    exact List.nodup_reverse.mp hnodup
  · rw [unloaded, hloaded.libraries, List.map_reverse, List.map_filterMap]
    refine (List.reverse_perm _).trans (List.Perm.of_eq ?_)
    congr 1
    funext name
    rw [opening, Option.map_map]
    exact Option.map_id'

end MessageTypes

end HitchOpen.LgsvlBridge
