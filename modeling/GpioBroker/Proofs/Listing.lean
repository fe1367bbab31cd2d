import GpioBroker.Client
import GpioBroker.Proofs.Screening
import GpioBroker.Proofs.Sorting

/-!
# Listing chips

The client asks for the chips it was told, in this order, or else for all of them in ascending
order, and shows of each what its object replies.  The first chip that is not answered with
properties ends the listing, and no later one is asked for; a name that makes no object path is not
asked for at all.  Once the client is connected, it disconnects once, however the listing ends.
-/

namespace GpioBroker

open Act

/-! ### Setting properties -/

theorem setField_of_forall {κ α : Type} {same : κ → κ → Bool} {fields : List (κ × α)} {name : κ}
    (fresh : ∀ f ∈ fields, same f.1 name = false) (v : α) :
    setField same fields name v = fields ++ [(name, v)] := by
  induction fields with
  | nil => rfl
  | cons f fields ih =>
    obtain ⟨other, fresh⟩ := List.forall_mem_cons.1 fresh
    rw [setField, other, if_neg Bool.false_ne_true, ih fresh, List.cons_append]

theorem mapM_eq_ok {α β : Type} {f : α → Except Fault β} {g : α → β} {l : List α}
    (ok : ∀ a ∈ l, f a = .ok (g a)) : l.mapM f = .ok (l.map g) := by
  induction l with
  | nil => rfl
  | cons a l ih =>
    obtain ⟨first, rest⟩ := List.forall_mem_cons.1 ok
    rw [List.mapM_cons, first, ih rest]
    rfl

namespace Client

/-! ### What replies hold -/

/-- The value of a property without its wrapping. -/
def Carried.inner : Carried → Value
  | .wrapped _ v => v
  | .plain v => v

/-- A map as messages have it: its names are texts that differ, and its wrapped values fit their
signatures. -/
structure IsMap (props : List (Value × Carried)) : Prop where
  texts : ∀ p ∈ props, ∃ t, p.1 = .text t
  names : (props.map Prod.fst).Nodup
  fits : ∀ p ∈ props, ∀ signature v, p.2 = .wrapped signature v → checkVariant signature v = .ok ()

/-- A reply as messages have it. -/
def Reply.IsProper : Reply → Prop
  | .properties body => ∀ props ∈ body, IsMap props
  | .error name body =>
    (∃ t, name = .text t ∧ Names.isInterfaceName t = true) ∧ ∃ items, body = .list items
  | .fault _ => True

/-- The properties in the body of a reply: those of the first map, if there is one, by name. -/
def fieldsOf (body : List (List (Value × Carried))) : List (Text × Value) :=
  (body.head?.getD []).map fun p => (p.1.display, p.2.inner)

/-- The name under which the name of a chip is shown. -/
def chipKey : Text := "chip"

/-- What is shown of a chip: its name, in front of its properties.  A property that is called like
the name takes the place of it. -/
def shown (id : Text) (fields : List (Text × Value)) : Value :=
  match fields.lookup chipKey with
  | none => .map ((chipKey, .text id) :: fields)
  | some v => .map ((chipKey, v) :: fields.filter fun f => f.1 != chipKey)

theorem Carried.value_of_fits {c : Carried}
    (fits : ∀ signature v, c = .wrapped signature v → checkVariant signature v = .ok ()) :
    c.value = .ok c.inner := by
  cases c with
  | wrapped signature v => rw [value, fits signature v rfl]; rfl
  | plain v => rfl

/-- Properties whose names are texts. -/
def named (fields : List (Text × Value)) : Properties := fields.map fun f => (.text f.1, f.2)

theorem forall_named {fields : List (Text × Value)} {P : Value × Value → Prop} :
    (∀ f ∈ named fields, P f) ↔ ∀ f ∈ fields, P (.text f.1, f.2) :=
  List.forall_mem_map

theorem named_append (fields others : List (Text × Value)) :
    named (fields ++ others) = named fields ++ named others :=
  List.map_append

theorem setProperty_self (t : Text) (w v : Value) (fields : Properties) :
    setProperty ((.text t, w) :: fields) (.text t) v = (.text t, v) :: fields := by
  unfold setProperty setField
  rw [if_pos (beq_self_eq_true _)]

theorem setProperty_of_fresh {fields : Properties} {t : Text} (fresh : ∀ f ∈ fields, f.1 ≠ .text t)
    (texts : ∀ f ∈ fields, ∃ s, f.1 = .text s) (v : Value) :
    setProperty fields (.text t) v = fields ++ [(.text t, v)] := by
  refine setField_of_forall (fun f there => ?_) v
  obtain ⟨s, name⟩ := texts f there
  have other := fresh f there
  rw [name] at other ⊢
  simpa using other

/-- Sets a property that a map holds. -/
def addProperty (fields : Properties) (p : Value × Carried) : Except Fault Properties := do
  let v ← p.2.value
  discard p.1.toKey
  return setProperty fields p.1 v

theorem propertiesOf_eq (props : List (Value × Carried)) :
    propertiesOf props = props.foldlM addProperty [] := rfl

theorem addProperty_eq_ok {fields : Properties} {p : Value × Carried}
    (texts : ∀ f ∈ fields, ∃ s, f.1 = .text s) (text : ∃ t, p.1 = .text t)
    (fresh : ∀ f ∈ fields, f.1 ≠ p.1)
    (fits : ∀ signature v, p.2 = .wrapped signature v → checkVariant signature v = .ok ()) :
    addProperty fields p = .ok (fields ++ [(p.1, p.2.inner)]) := by
  obtain ⟨t, name⟩ := text
  unfold addProperty
  rw [name] at fresh ⊢
  rw [Carried.value_of_fits fits, ← setProperty_of_fresh fresh texts]
  rfl

theorem foldlM_addProperty {props : List (Value × Carried)} (isMap : IsMap props)
    {before : Properties} (texts : ∀ f ∈ before, ∃ s, f.1 = .text s)
    (apart : ∀ f ∈ before, ∀ p ∈ props, f.1 ≠ p.1) :
    props.foldlM addProperty before = .ok (before ++ props.map fun p => (p.1, p.2.inner)) := by
  induction props generalizing before with
  | nil => rw [List.map_nil, List.append_nil]; rfl
  | cons p props ih =>
    obtain ⟨text, texts'⟩ := List.forall_mem_cons.1 isMap.texts
    obtain ⟨fits, fits'⟩ := List.forall_mem_cons.1 isMap.fits
    obtain ⟨alone, names⟩ := List.nodup_cons.1 isMap.names
    have fresh : ∀ f ∈ before, f.1 ≠ p.1 := fun f there => apart f there p List.mem_cons_self
    have apart' : ∀ f ∈ before ++ [(p.1, p.2.inner)], ∀ q ∈ props, f.1 ≠ q.1 := by
      refine List.forall_mem_append.2
        ⟨fun f there q later => apart f there q (List.mem_cons_of_mem _ later),
        List.forall_mem_singleton.2 fun q later same => alone ?_⟩
      rw [show p.1 = q.1 from same]
      exact List.mem_map_of_mem later
    rw [List.foldlM_cons, addProperty_eq_ok texts text fresh fits]
    refine (ih ⟨texts', names, fits'⟩ ?_ apart').trans ?_
    · exact List.forall_mem_append.2 ⟨texts, List.forall_mem_singleton.2 text⟩
    · rw [List.append_assoc, List.map_cons, List.singleton_append]

/-- The properties of a proper map are all that is in it. -/
theorem propertiesOf_eq_ok {props : List (Value × Carried)} (isMap : IsMap props) :
    propertiesOf props = .ok (props.map fun p => (p.1, p.2.inner)) := by
  rw [propertiesOf_eq, foldlM_addProperty isMap (by simp) (by simp), List.nil_append]

theorem unpack_eq_ok {body : List (List (Value × Carried))} (proper : ∀ props ∈ body, IsMap props) :
    unpack body = .ok (named (fieldsOf body)) := by
  unfold unpack
  rw [mapM_eq_ok fun props there => propertiesOf_eq_ok (proper props there)]
  refine congrArg Except.ok ?_
  cases body with
  | nil => rfl
  | cons props body =>
    simp only [List.map_cons, List.head?_cons, Option.getD_some, named, fieldsOf, List.map_map]
    refine List.map_congr_left fun p there => ?_
    obtain ⟨t, name⟩ := (proper props List.mem_cons_self).texts p there
    simp [name]

theorem nodup_fieldsOf {body : List (List (Value × Carried))}
    (proper : ∀ props ∈ body, IsMap props) :
    ((fieldsOf body).map Prod.fst).Nodup := by
  cases body with
  | nil => exact List.nodup_nil
  | cons props body =>
    have isMap := proper props List.mem_cons_self
    refine List.Nodup.of_map Value.text ?_
    simp only [fieldsOf, List.head?_cons, Option.getD_some, List.map_map]
    refine Eq.mp (congrArg List.Nodup (List.map_congr_left fun p there => ?_)) isMap.names
    obtain ⟨t, name⟩ := isMap.texts p there
    simp [name]

theorem lookup_of_notMem {fields : List (Text × Value)} {t : Text}
    (alone : t ∉ fields.map Prod.fst) :
    fields.lookup t = none := by
  refine List.lookup_eq_none_iff.2 fun g there => ?_
  have other : t ≠ g.1 := by
    intro same
    exact alone (List.mem_map.2 ⟨g, there, same.symm⟩)
  simpa using other

/-- A property that is not called like the name of a chip is set behind the others. -/
theorem setProperty_behind {before : List (Text × Value)} {t : Text} (other : t ≠ chipKey)
    (fresh : ∀ f ∈ before, f.1 ≠ t) (w v : Value) :
    setProperty ((.text chipKey, w) :: named before) (.text t) v =
      (.text chipKey, w) :: named (before ++ [(t, v)]) := by
  have fresh' : ∀ f ∈ (.text chipKey, w) :: named before, f.1 ≠ .text t :=
    List.forall_mem_cons.2
      ⟨by simpa using Ne.symm other, forall_named.2 fun f there => by simpa using fresh f there⟩
  have texts : ∀ f ∈ (.text chipKey, w) :: named before, ∃ s, f.1 = .text s :=
    List.forall_mem_cons.2 ⟨⟨_, rfl⟩, forall_named.2 fun f _ => ⟨_, rfl⟩⟩
  rw [setProperty_of_fresh fresh' texts, named_append]
  rfl

/-- Properties are set behind the name of a chip, but for one that is called like it. -/
theorem foldl_setProperty {fields : List (Text × Value)} (names : (fields.map Prod.fst).Nodup)
    (w : Value) (before : List (Text × Value)) (apart : ∀ f ∈ before, f.1 ∉ fields.map Prod.fst) :
    (named fields).foldl (fun fields p => setProperty fields p.1 p.2)
      ((.text chipKey, w) :: named before) =
      (.text chipKey, (fields.lookup chipKey).getD w) ::
        named (before ++ fields.filter fun f => f.1 != chipKey) := by
  induction fields generalizing w before with
  | nil => simp [named]
  | cons f fields ih =>
    obtain ⟨name, v⟩ := f
    obtain ⟨alone, rest⟩ := List.nodup_cons.1 names
    have apart' : ∀ g ∈ before, g.1 ∉ fields.map Prod.fst := fun g there later =>
      apart g there (List.mem_cons_of_mem _ later)
    change (named fields).foldl _
      (setProperty ((.text chipKey, w) :: named before) (.text name) v) = _
    by_cases chip : name = chipKey
    · subst chip
      rw [setProperty_self, ih rest v before apart', lookup_of_notMem alone,
        List.filter_cons_of_neg (by simp),
        List.lookup_cons_self]
      rfl
    · have fresh : ∀ g ∈ before, g.1 ≠ name := fun g there same => apart g there (by simp [same])
      have apart₁ : ∀ g ∈ before ++ [(name, v)], g.1 ∉ fields.map Prod.fst :=
        List.forall_mem_append.2 ⟨apart', List.forall_mem_singleton.2 alone⟩
      rw [setProperty_behind chip fresh, ih rest w _ apart₁,
        List.filter_cons_of_pos (by simpa using chip),
        List.append_assoc, List.lookup_cons, beq_false_of_ne (Ne.symm chip)]
      rfl

/-- What is shown of a chip is its name and its properties. -/
theorem chipDocument_named (id : Text) {fields : List (Text × Value)}
    (names : (fields.map Prod.fst).Nodup) :
    chipDocument (.text id) (named fields) = shown id fields := by
  have set : (named fields).foldl (fun fields p => setProperty fields p.1 p.2)
      [(.text "chip", .text id)] = _ :=
    foldl_setProperty names (.text id) [] (by simp)
  have plain (others : List (Text × Value)) :
      (named others).map (fun p => (p.1.jsonName, p.2)) = others := by
    simp [named, Value.jsonName, Function.comp_def]
  unfold chipDocument shown
  rw [set]
  dsimp only
  rw [List.map_cons, plain, List.nil_append]
  cases found : fields.lookup chipKey with
  | none =>
    have others : fields.filter (fun f => f.1 != chipKey) = fields := by
      refine List.filter_eq_self.2 fun f there => ?_
      rw [bne_comm]
      simpa using List.lookup_eq_none_iff.1 found f there
    rw [others]
    rfl
  | some v => rfl

/-! ### Asking for a chip -/

/-- How asking for a chip ends, by the reply of its object. -/
inductive Asked (d : Directory) (id : Text) : List Call → Except Failure Value → Prop
  | misnamed (bad : ¬ id.IsExposable) :
      Asked d id [] (.error { fault := .misnamed ⟨.objectPath, objectPath id⟩ })
  | found (body : List (List (Value × Carried))) (good : id.IsExposable)
      (reply : d.reply (objectPath id) = .properties body) :
      Asked d id [query (objectPath id)] (.ok (shown id (fieldsOf body)))
  | refused (name : Text) (items : List Value) (good : id.IsExposable)
      (reply : d.reply (objectPath id) = .error (.text name) (.list items)) :
      Asked d id [query (objectPath id)]
        (.error { fault := .queryFailed id ((items.head?.map Value.display).getD name) })
  | failed (f : Fault) (good : id.IsExposable) (reply : d.reply (objectPath id) = .fault f) :
      Asked d id [query (objectPath id)] (.error { fault := f })

theorem ends_getChip {h : Host Directory} (id : Text)
    (proper : (h.state.reply (objectPath id)).IsProper) :
    (getChip (.text id)).Ends h fun r h' =>
      ∃ calls, Asked h.state id calls r ∧ h'.calls = h.calls ++ calls ∧
      (r.isOk → h'.state = h.state.onward) := by
  unfold getChip
  simp only [ends_bind, Value.display_text]
  by_cases good : id.IsExposable
  · have valid : Names.checkText .objectPath (objectPath id) = .ok () :=
      if_pos ((isObjectPath_objectPath id).2 good)
    rw [valid, ends_ofExcept_ok]
    simp only [ends_note, ends_state, ends_update]
    cases reply : h.state.reply (objectPath id) with
    | properties body =>
      rw [reply] at proper
      have kept : unpack body = .ok (named (fieldsOf body)) := unpack_eq_ok proper
      simp only [kept, ends_bind, ends_ofExcept_ok, ends_pure,
        chipDocument_named id (nodup_fieldsOf proper)]
      exact ⟨_, .found body good reply, rfl, fun _ => trivial⟩
    | error name body =>
      rw [reply] at proper
      obtain ⟨⟨t, rfl, isName⟩, items, rfl⟩ := proper
      have checked : checkErrorName (.text t) = .ok () := if_pos isName
      have detail : errorDetail (.text t) (.list items) =
          .ok ((items.head?.map Value.display).getD t) := by
        cases items <;> rfl
      simp only [checked, detail, ends_bind, ends_ofExcept_ok]
      exact ⟨_, .refused t items good reply, rfl, fun ok => by cases ok⟩
    | fault f => exact ⟨_, .failed f good reply, rfl, fun ok => by cases ok⟩
  · have refused : Names.checkText .objectPath (objectPath id) =
        .error (.misnamed ⟨.objectPath, objectPath id⟩) :=
      if_neg fun valid => good ((isObjectPath_objectPath id).1 valid)
    rw [refused]
    exact ⟨[], .misnamed good, (List.append_nil _).symm, fun ok => by cases ok⟩

/-! ### Asking for one chip after another -/

/-- A bus whose replies and nodes are such as messages have. -/
structure Directory.IsProper (d : Directory) : Prop where
  replies : ∀ reply ∈ d.replies, reply.2.IsProper
  later : ∀ replies ∈ d.laterReplies, ∀ reply ∈ replies, reply.2.IsProper
  nodes : ∀ v ∈ d.nodes, ∃ t, v = .text t

theorem Directory.IsProper.reply {d : Directory} (proper : d.IsProper) (path : Text) :
    (d.reply path).IsProper := by
  unfold Directory.reply
  cases found : d.replies.lookup path with
  | none => exact ⟨⟨_, rfl, by decide⟩, _, rfl⟩
  | some reply =>
    obtain ⟨front, back, split, -⟩ := List.lookup_eq_some_iff.1 found
    exact proper.replies (path, reply) (by simp [split])

theorem Directory.IsProper.onward {d : Directory} (proper : d.IsProper) : d.onward.IsProper := by
  unfold Directory.onward
  cases later : d.laterReplies with
  | nil => exact proper
  | cons replies rest =>
    have known := proper.later
    rw [later] at known
    obtain ⟨replies, later⟩ := List.forall_mem_cons.1 known
    exact ⟨replies, later, proper.nodes⟩

/-- The replies to queries for some chips, one after another. -/
def Directory.answers (d : Directory) : List Text → List Reply
  | [] => []
  | id :: ids => d.reply (objectPath id) :: d.onward.answers ids

/-- The queries for some chips. -/
def queries (ids : List Text) : List Call := ids.map fun id => query (objectPath id)

/-- How asking for some chips ends: all are answered with properties, or all before the first that
is not. -/
inductive Lists (d : Directory) (ids : List Text) : List Call → Except Failure (List Value) → Prop
  /-- Each chip is shown with its own properties. -/
  | all (bodies : List (List (List (Value × Carried)))) (good : ∀ id ∈ ids, id.IsExposable)
      (answers : d.answers ids = bodies.map .properties) :
      Lists d ids (queries ids) (.ok (List.zipWith shown ids (bodies.map fieldsOf)))
  /-- An error reply is told of with its first item, or else with its name. -/
  | refused (front back : List Text) (id : Text)
      (bodies : List (List (List (Value × Carried)))) (name : Text)
      (items : List Value) (e : Failure) (split : ids = front ++ id :: back)
      (good : ∀ i ∈ front ++ [id], i.IsExposable)
      (answers : d.answers (front ++ [id]) =
        bodies.map .properties ++ [.error (.text name) (.list items)])
      (kind : e.fault.kind = .runtime)
      (tells : e.fault.message = id ++ ": " ++ (items.head?.map Value.display).getD name) :
      Lists d ids (queries (front ++ [id])) (.error e)
  | failed (front back : List Text) (id : Text)
      (bodies : List (List (List (Value × Carried)))) (f : Fault)
      (split : ids = front ++ id :: back) (good : ∀ i ∈ front ++ [id], i.IsExposable)
      (answers : d.answers (front ++ [id]) = bodies.map .properties ++ [.fault f]) :
      Lists d ids (queries (front ++ [id])) (.error { fault := f })
  /-- A name that makes no object path is not asked for. -/
  | misnamed (front back : List Text) (id : Text) (bodies : List (List (List (Value × Carried))))
      (split : ids = front ++ id :: back) (good : ∀ i ∈ front, i.IsExposable)
      (answers : d.answers front = bodies.map .properties) (bad : ¬ id.IsExposable) :
      Lists d ids (queries front) (.error { fault := .misnamed ⟨.objectPath, objectPath id⟩ })

/-- A chip that is answered with properties is shown in front of the others. -/
theorem Lists.cons {d : Directory} {id : Text} {ids : List Text} {calls : List Call}
    {r : Except Failure (List Value)} {body : List (List (Value × Carried))} (good : id.IsExposable)
    (reply : d.reply (objectPath id) = .properties body) (lists : Lists d.onward ids calls r) :
    Lists d (id :: ids) (query (objectPath id) :: calls)
      (r.map (shown id (fieldsOf body) :: ·)) := by
  cases lists with
  | all bodies rest answers =>
    exact .all (body :: bodies) (List.forall_mem_cons.2 ⟨good, rest⟩)
      (by simp [Directory.answers, reply, answers])
  | refused front back i bodies name items e split rest answers kind tells =>
    exact .refused (id :: front) back i (body :: bodies) name items e
      (by rw [split, List.cons_append])
      (List.forall_mem_cons.2 ⟨good, rest⟩) (by simp [Directory.answers, reply, answers]) kind tells
  | failed front back i bodies f split rest answers =>
    exact .failed (id :: front) back i (body :: bodies) f (by rw [split, List.cons_append])
      (List.forall_mem_cons.2 ⟨good, rest⟩) (by simp [Directory.answers, reply, answers])
  | misnamed front back i bodies split rest answers bad =>
    exact .misnamed (id :: front) back i (body :: bodies) (by rw [split, List.cons_append])
      (List.forall_mem_cons.2 ⟨good, rest⟩) (by simp [Directory.answers, reply, answers]) bad

theorem ends_getChips {h : Host Directory} (proper : h.state.IsProper) (ids : List Text) :
    ((ids.map Value.text).mapM getChip).Ends h fun r h' => ∃ calls, Lists h.state ids calls r ∧
      h'.calls = h.calls ++ calls := by
  induction ids generalizing h with
  | nil => exact ⟨[], .all [] (by simp) rfl, (List.append_nil _).symm⟩
  | cons id ids ih =>
    rw [List.map_cons, List.mapM_cons]
    refine (ends_getChip id (proper.reply _)).bind ?_ ?_
    · rintro document h₁ ⟨calls, asked, called, goesOn⟩
      have state : h₁.state = h.state.onward := goesOn rfl
      cases asked with
      | found body good reply =>
        refine ends_bind.2 ((ih (state ▸ proper.onward)).mono ?_)
        rintro r h' ⟨calls', lists, called'⟩
        rw [state] at lists
        have shows := lists.cons good reply
        rw [called, List.append_assoc] at called'
        cases r with
        | ok documents => exact ⟨_, shows, called'⟩
        | error e => exact ⟨_, shows, called'⟩
    · rintro e h' ⟨calls, asked, called, -⟩
      cases asked with
      | misnamed bad => exact ⟨_, .misnamed [] ids id [] rfl (by simp) rfl bad, called⟩
      | refused name items good reply =>
        exact ⟨_, .refused [] ids id [] name items _ rfl (by simpa using good)
          (by simp [Directory.answers, reply]) rfl rfl, called⟩
      | failed f good reply =>
        exact ⟨_, .failed [] ids id [] f rfl (by simpa using good)
          (by simp [Directory.answers, reply]), called⟩

/-! ### Listing -/

/-- How a listing goes on once it is connected: by the chips that were told, or else by all there
are, in ascending order. -/
inductive Chooses (d : Directory) : List Text → List Call → Except Failure (List Value) → Prop
  | told (only : List Text) (calls : List Call) (r : Except Failure (List Value)) (some : only ≠ [])
      (lists : Lists d only calls r) : Chooses d only calls r
  | found (ids : List Text) (calls : List Call) (r : Except Failure (List Value))
      (answers : d.introspectFault = none) (nodes : (ids.map Value.text).Perm d.nodes)
      (ascends : ids.Pairwise (· ≤ ·)) (lists : Lists d ids calls r) :
      Chooses d [] (.introspect Layout.busName Layout.rootPath :: calls) r
  | lost (f : Fault) (fails : d.introspectFault = some f) :
      Chooses d [] [.introspect Layout.busName Layout.rootPath] (.error { fault := f })

/-- A listing: if the client was connected, it disconnects once, at the end. -/
inductive Listing (bus : BusKind) (d : Directory) (only : List Text) :
    List Call → Except Failure (List Value) → Prop
  | unconnected (f : Fault) (fails : d.connectFault = some f) :
      Listing bus d only [.createBus bus, .connect] (.error { fault := f })
  | connected (calls : List Call) (r : Except Failure (List Value))
      (connects : d.connectFault = none)
      (chooses : Chooses d only calls r) (stays : .disconnect ∉ calls) :
      Listing bus d only ([.createBus bus, .connect] ++ calls ++ [.disconnect]) r

theorem Lists.disconnect_notMem {d : Directory} {ids : List Text} {calls : List Call}
    {r : Except Failure (List Value)} (lists : Lists d ids calls r) : .disconnect ∉ calls := by
  cases lists <;> simp [queries, query]

theorem Chooses.disconnect_notMem {d : Directory} {only : List Text} {calls : List Call}
    {r : Except Failure (List Value)} (chooses : Chooses d only calls r) : .disconnect ∉ calls := by
  cases chooses with
  | told _ _ _ some lists => exact lists.disconnect_notMem
  | found ids calls r answers nodes ascends lists => simpa using lists.disconnect_notMem
  | lost f fails => simp

variable {h : Host Directory}

/-- The nodes that are found are sorted as texts are. -/
theorem exists_sorted_nodes {d : Directory} (proper : d.IsProper) : ∃ ids : List Text,
    Value.sorted d.nodes = .ok (ids.map .text) ∧ (ids.map Value.text).Perm d.nodes ∧
      ids.Pairwise (· ≤ ·) := by
  have texts : (d.nodes.map Value.display).map Value.text = d.nodes := by
    rw [List.map_map]
    refine (List.map_congr_left fun v there => ?_).trans (List.map_id d.nodes)
    obtain ⟨t, rfl⟩ := proper.nodes v there
    rfl
  obtain ⟨ids, sorted, perm, ascends⟩ := Value.sorted_texts (d.nodes.map Value.display)
  rw [texts] at sorted
  exact ⟨ids, sorted, texts ▸ perm.map Value.text, ascends⟩

theorem ends_queryChips (proper : h.state.IsProper) (only : List Text) :
    (queryChips only).Ends h fun r h' => ∃ calls, Chooses h.state only calls r ∧
      h'.calls = h.calls ++ calls := by
  unfold queryChips
  cases only with
  | nil =>
    unfold findChips
    rw [List.isEmpty_nil, if_pos rfl]
    simp only [ends_bind, ends_note, ends_state]
    refine ends_failing _ (fun answers => ?_) fun f fails => ⟨_, .lost f fails, rfl⟩
    obtain ⟨ids, sorted, nodes, ascends⟩ := exists_sorted_nodes proper
    rw [sorted, ends_ofExcept_ok]
    refine Ends.mono (ends_getChips (h := { h with calls := h.calls ++ [_] }) proper ids) ?_
    rintro r h' ⟨calls, lists, called⟩
    exact ⟨_,
      .found ids calls r answers nodes ascends lists, by rw [called, List.append_assoc]; rfl⟩
  | cons id ids =>
    refine (ends_getChips proper (id :: ids)).mono ?_
    rintro r h' ⟨calls, lists, called⟩
    exact ⟨calls, .told _ _ _ (List.cons_ne_nil _ _) lists, called⟩

/-- However a listing ends, its calls are those of a listing, and it gives what they are
answered. -/
theorem isListed (bus : BusKind) (only : List Text) (proper : h.state.IsProper) :
    (listChips bus only).Ends h fun r h' => ∃ calls, Listing bus h.state only calls r ∧
      h'.calls = h.calls ++ calls := by
  unfold listChips
  simp only [ends_bind, ends_note, ends_state]
  refine ends_failing _ (fun connects => ?_) fun f fails => ?_
  · have asks :=
      ends_queryChips
        (h := { h with calls := h.calls ++ [.createBus bus] ++ [.connect] }) proper only
    refine asks.ensure ?_
    rintro r h' ⟨calls, chooses, called⟩
    exact ⟨_, .connected calls r connects chooses chooses.disconnect_notMem, by simp [called]⟩
  · exact ⟨_, .unconnected f fails, by simp⟩

/-- Two chips, the second of which is found first. -/
def twoChips : Directory where
  nodes := [.text "gpiochip1", .text "gpiochip0"]
  replies := [
    (objectPath "gpiochip0", .properties [[
      (.text "Name", .wrapped (.text "s") (.text "gpiochip0")),
      (.text "Label", .plain (.text "pinctrl"))]]),
    (objectPath "gpiochip1", .error (.text "org.freedesktop.DBus.Error.AccessDenied") (.list []))]

theorem isProper_twoChips : twoChips.IsProper := by
  refine ⟨?_, by simp [twoChips], by simp [twoChips]⟩
  refine List.forall_mem_cons.2 ⟨List.forall_mem_singleton.2 ⟨by simp, by decide, ?_⟩,
    List.forall_mem_singleton.2 ⟨⟨_, rfl, by decide⟩, _, rfl⟩⟩
  refine List.forall_mem_cons.2 ⟨?_, List.forall_mem_singleton.2 fun _ _ plain => by cases plain⟩
  rintro signature v wrapped
  cases wrapped
  rfl

theorem isListed_twoChips : twoChips.IsProper ∧ (listChips .system []).Ends { state := twoChips }
    fun r h' => ∃ calls, Listing .system twoChips [] calls r ∧ h'.calls = calls :=
  ⟨isProper_twoChips, isListed .system [] isProper_twoChips⟩

example : ((listChips .system []).run { state := twoChips }).2.calls =
    [.createBus .system, .connect, .introspect Layout.busName Layout.rootPath,
      query (objectPath "gpiochip0"), query (objectPath "gpiochip1"), .disconnect] := by
  decide +kernel

/-- A chip whose name has a hyphen. -/
def hyphened : Directory where
  replies := [(objectPath "gpio-chip", .properties [])]

/-- Not every chip that is told is asked for: there is no object path with a hyphen. -/
theorem not_isListed : ¬ ∀ (d : Directory) (bus : BusKind) (only : List Text)
    (bodies : List (List (List (Value × Carried)))), d.IsProper →
      d.connectFault = none → only ≠ [] →
    d.answers only = bodies.map .properties →
    ((listChips bus only).run { state := d }).1 =
      .ok (List.zipWith shown only (bodies.map fieldsOf)) := by
  intro all
  have proper : hyphened.IsProper :=
    ⟨List.forall_mem_singleton.2 (by simp [Reply.IsProper]), by simp [hyphened], by simp [hyphened]⟩
  have answers : hyphened.answers ["gpio-chip"] = [.properties []] := rfl
  have returned := all hyphened .system ["gpio-chip"] [[]] proper rfl (List.cons_ne_nil _ _) answers
  have failed : ((listChips .system ["gpio-chip"]).run { state := hyphened }).1.isOk = false := by
    decide +kernel
  rw [returned] at failed
  cases failed

end Client

end GpioBroker
