import FeatureToggle.Proofs.Footprints

/-!
# Coherence of caches

A cache is coherent if whatever it remembers, absence included, is what the tree behind it would
answer now. While the caches of a tree are coherent, the tree answers as if it had none. Reads keep
coherence because they change no answer. Writes keep it although they do, because a write evicts its
feature from every cache that it goes through, whether it succeeds or not, and because no store is
reached on two ways.
-/
namespace FeatureToggle

open FeatureToggle.Action Repository

/-- What the given caches, each standing in front of a tree, remember of a feature is what these
trees answer. -/
def CoherentFor (feature : String) (nodes : List (Nat × Tree)) (w : World) : Prop :=
  ∀ n ∈ nodes, ∀ entry, (w.caches n.1).get? feature = some entry →
    n.2.answer w.kept feature = .ok entry.state

/-- What the given caches remember, each standing in front of a tree, is what these trees answer. -/
def Coherent (nodes : List (Nat × Tree)) (w : World) : Prop :=
  ∀ n ∈ nodes, ∀ feature entry, (w.caches n.1).get? feature = some entry →
    n.2.answer w.kept feature = .ok entry.state

theorem coherent_iff {nodes : List (Nat × Tree)} {w : World} :
    Coherent nodes w ↔ ∀ feature, CoherentFor feature nodes w :=
  ⟨fun h feature n hn => h n hn feature, fun h n hn feature => h feature n hn⟩

/-- Each number occurs with one tree only. -/
def Unambiguous (nodes : List (Nat × Tree)) : Prop := ∀ m ∈ nodes, ∀ n ∈ nodes, m.1 = n.1 → m = n

theorem Cache.get?_of_fresh? {c : Cache} {ttl now : Nat} {feature : String} {entry : CacheEntry}
    (h : c.fresh? ttl now feature = some entry) : c.get? feature = some entry :=
  (Option.filter_eq_some_iff.1 h).1

namespace CoherentFor

variable {feature : String} {nodes nodes' : List (Nat × Tree)} {w v : World}

theorem subset (h : CoherentFor feature nodes w) (hsub : nodes' ⊆ nodes) :
    CoherentFor feature nodes' w :=
  fun n hn => h n (hsub hn)

/-- Entries may be forgotten as long as the answers stay. -/
theorem mono (h : CoherentFor feature nodes w)
    (hanswer : ∀ n ∈ nodes, n.2.answer v.kept feature = n.2.answer w.kept feature)
    (hentries : ∀ n ∈ nodes, ∀ entry, (v.caches n.1).get? feature = some entry →
      (w.caches n.1).get? feature = some entry) : CoherentFor feature nodes v := by
  intro n hn entry hentry
  rw [hanswer n hn]
  exact h n hn entry (hentries n hn entry hentry)

/-- A read of another feature changes nothing. -/
theorem of_readOnly {t : Tree} {other : String} (h : CoherentFor feature nodes w)
    (hro : ReadOnly t other w v) (hne : feature ≠ other) : CoherentFor feature nodes v := by
  refine h.mono (fun n _ => by rw [hro.kept]) fun n _ entry hentry => ?_
  rw [hro.entries n.1 feature hne] at hentry
  exact hentry

/-- An answer that was just given may be remembered. -/
theorem remember {id : Nat} {state : Option FeatureState} (h : CoherentFor feature nodes w)
    (hanswer : ∀ n ∈ nodes, n.1 = id → n.2.answer w.kept feature = .ok state) (time : Nat) :
    CoherentFor feature nodes
      ((World.cache id).put ((w.caches id).insert feature ⟨state, time⟩) w) := by
  intro n hn entry hentry
  show n.2.answer w.kept feature = _
  by_cases hid : n.1 = id
  · simp only [World.cache, hid, World.setAt_self, SortedMap.get?_insert, if_pos] at hentry
    obtain rfl := Option.some.inj hentry
    exact hanswer n hn hid
  · simp only [World.cache, World.setAt_of_ne _ _ hid] at hentry
    exact h n hn entry hentry

/-- What is evicted is no longer remembered. -/
theorem evict {id : Nat} (h : CoherentFor feature nodes w) (other : String) :
    CoherentFor feature nodes ((World.cache id).put ((w.caches id).erase other) w) := by
  refine h.mono (fun _ _ => rfl) fun n _ entry hentry => ?_
  by_cases hid : n.1 = id
  · by_cases ho : other = feature
    · simp [World.cache, hid, ho] at hentry
    · simpa [World.cache, hid, ho] using hentry
  · simpa [World.cache, World.setAt_of_ne _ _ hid] using hentry

/-- A cache may forget everything. -/
theorem forget (h : CoherentFor feature nodes w) (id : Nat) :
    CoherentFor feature nodes ((World.cache id).put .empty w) := by
  refine h.mono (fun _ _ => rfl) fun n _ entry hentry => ?_
  by_cases hid : n.1 = id
  · simp [World.cache, hid] at hentry
  · simpa [World.cache, World.setAt_of_ne _ _ hid] using hentry

end CoherentFor

namespace Coherent

variable {nodes nodes' : List (Nat × Tree)} {w v : World}

theorem subset (h : Coherent nodes w) (hsub : nodes' ⊆ nodes) : Coherent nodes' w :=
  fun n hn => h n (hsub hn)

theorem congr (h : Coherent nodes w) (hk : v.kept = w.kept) (hc : v.caches = w.caches) :
    Coherent nodes v := by
  intro n hn feature entry hentry
  rw [hc] at hentry
  rw [hk]
  exact h n hn feature entry hentry

/-- A change within one tree does not disturb the caches of another. -/
theorem of_apart {t u : Tree} {feature : String} (h : Coherent u.caches w)
    (hwithin : Within t feature w v) (hapart : t.Apart u) : Coherent u.caches v := by
  intro n hn other entry hentry
  have hcache : n.1 ∉ t.cacheIds := fun hmem => hapart.caches hmem (List.mem_map_of_mem hn)
  rw [hwithin.cache n.1 hcache] at hentry
  rw [Tree.answer_congr fun id hid => ?_]
  · exact h n hn other entry hentry
  · have hleaf : id ∉ t.leaves :=
      fun hmem => hapart.leaves hmem (Tree.leaves_subset_of_mem_caches hn hid)
    rw [hwithin.kept_of_not_mem hleaf]

end Coherent

namespace Tree

variable {call : Caller World} {kind : Listener → Prop} {s : FeatureState} {feature : String}
  {nodes : List (Nat × Tree)} {t : Tree} {w : World}

/-- Empty caches are coherent. -/
theorem coherent_of_cold (h : ∀ id ∈ t.cacheIds, w.caches id = .empty) : Coherent t.caches w := by
  intro n hn feature entry hentry
  rw [h n.1 (List.mem_map_of_mem hn), SortedMap.get?_empty] at hentry
  cases hentry

theorem Distinct.unambiguous (hd : t.Distinct) : Unambiguous t.caches :=
  fun _ hm _ hn => hd.eq_of_mem_caches hm hn

/-! ## Reads -/

/-- With coherent caches a read is answered as if there were none, and leaves them coherent. -/
theorem read_of_coherentFor (call : Caller World) (hu : Unambiguous nodes) (hsub : t.caches ⊆ nodes)
    (hw : CoherentFor feature nodes w) :
    ((t.repository call).read feature).result w = t.answer w.kept feature ∧
      CoherentFor feature nodes (((t.repository call).read feature).after w) := by
  induction t generalizing w with
  | store id =>
    rw [Tree.repository, result_store_read, after_store_read]
    have hro : ReadOnly (.store id) feature w _ := ReadOnly.count_read id
    have hanswer (n : Nat × Tree) := congrArg (n.2.answer · feature) hro.kept
    exact ⟨rfl, hw.mono (fun n _ => hanswer n) fun _ _ _ hentry => hentry⟩
  | cache id ttl inner ih =>
    have hmem : (id, inner) ∈ nodes := hsub List.mem_cons_self
    have hsub' : inner.caches ⊆ nodes := fun n hn => hsub (List.mem_cons_of_mem _ hn)
    obtain ⟨hresult, hcoherent⟩ := ih hsub' hw
    rw [Tree.repository]
    cases hfresh : ((World.cache id).get w).fresh? ttl w.now feature with
    | some entry =>
      rw [Action.result, Action.after, run_cached_read_of_fresh hfresh]
      exact ⟨(hw _ hmem entry (Cache.get?_of_fresh? hfresh)).symm, hw⟩
    | none =>
      cases hread : ((inner.repository call).read feature).result w with
      | error e =>
        rw [Action.result, Action.after, run_cached_read_of_error hfresh hread]
        exact ⟨hread.symm.trans hresult, hcoherent⟩
      | ok state =>
        rw [Action.result, Action.after, run_cached_read_of_ok hfresh hread]
        refine ⟨hread.symm.trans hresult, hcoherent.remember (fun n hn hid => ?_) _⟩
        obtain rfl : n = (id, inner) := hu n hn _ hmem hid
        rw [(inner.readOnly_read call feature w).kept, ← hresult, hread]
  | composite order target ts ih =>
    have hstep : ∀ t ∈ order.arrange ts, ∀ v, CoherentFor feature nodes v ∧ v.kept = w.kept →
        ((t.repository call).read feature).result v = t.answer w.kept feature ∧
          CoherentFor feature nodes (((t.repository call).read feature).after v) ∧
          (((t.repository call).read feature).after v).kept = w.kept := by
      intro t ht v hv
      have hts : t ∈ ts := (order.mem_arrange ts t).1 ht
      have hspec := ih t hts (fun n hn => hsub (caches_subset_composite hts hn)) hv.1
      rw [hv.2] at hspec
      exact ⟨hspec.1, hspec.2, (t.readOnly_read call feature v).kept.trans hv.2⟩
    have hsearch := result_readFirst hstep ⟨hw, rfl⟩
    rw [Tree.repository, repositories_eq, answer_composite]
    simp only [Repository.composite, ReadOrder.arrange_map]
    exact ⟨hsearch.1, hsearch.2.1⟩
  | listenable id inner ih => exact ih hsub hw
  | journal j inner ih => exact ih hsub hw

/-- The same for caches that are coherent for every feature. -/
theorem read_of_coherent (call : Caller World) (feature : String) (hu : Unambiguous nodes)
    (hsub : t.caches ⊆ nodes) (hw : Coherent nodes w) :
    ((t.repository call).read feature).result w = t.answer w.kept feature ∧
      Coherent nodes (((t.repository call).read feature).after w) := by
  have hall := coherent_iff.1 hw
  obtain ⟨hresult, hcoherent⟩ := read_of_coherentFor call hu hsub (hall feature)
  refine ⟨hresult, coherent_iff.2 fun other => ?_⟩
  by_cases ho : other = feature
  · exact ho ▸ hcoherent
  · exact (hall other).of_readOnly (t.readOnly_read call feature w) ho

/-- Reads through one part of a tree leave the caches of every other part coherent. -/
theorem keeps_coherentFor_read (call : Caller World) {r u : Tree} (hd : r.Distinct) (ht : t.Part r)
    (hu : u.Part r) (other : String) :
    Keeps (Preserves (CoherentFor feature u.caches)) ((t.repository call).read other) := by
  by_cases ho : feature = other
  swap
  · exact fun w hw => hw.of_readOnly (t.readOnly_read call other w) ho
  subst ho
  have hunambiguous : Unambiguous u.caches := (hu.distinct hd).unambiguous
  induction t with
  | store id =>
    have hsub : (Tree.store id).caches ⊆ u.caches := List.nil_subset _
    exact fun w hw => (read_of_coherentFor call hunambiguous hsub hw).2
  | cache id ttl inner ih =>
    have hnode : (id, inner) ∈ r.caches := ht.caches_subset List.mem_cons_self
    intro w hw
    by_cases hid : id ∈ u.cacheIds
    · -- the cache belongs to the other part, and so does all that is behind it
      obtain ⟨n, hn, hnid⟩ := List.mem_map.1 hid
      obtain rfl : n = (id, inner) := hd.eq_of_mem_caches (hu.caches_subset hn) hnode hnid
      have hsub : (Tree.cache id ttl inner).caches ⊆ u.caches :=
        List.cons_subset.2 ⟨hn, caches_subset_of_mem_caches hn⟩
      exact (read_of_coherentFor call hunambiguous hsub hw).2
    · have hinner := ih ((Part.cache id ttl .whole).trans ht) w hw
      rw [Tree.repository]
      cases hfresh : ((World.cache id).get w).fresh? ttl w.now feature with
      | some entry =>
        rw [Action.after, run_cached_read_of_fresh hfresh]
        exact hw
      | none =>
        cases hread : ((inner.repository call).read feature).result w with
        | error e =>
          rw [Action.after, run_cached_read_of_error hfresh hread]
          exact hinner
        | ok state =>
          rw [Action.after, run_cached_read_of_ok hfresh hread]
          refine hinner.remember (fun n hn hnid => ?_) _
          exact absurd (List.mem_map.2 ⟨n, hn, hnid⟩) hid
  | composite order target ts ih =>
    rw [Tree.repository, repositories_eq]
    refine keeps_readFirst fun d hdel => ?_
    rw [ReadOrder.mem_arrange] at hdel
    obtain ⟨t, hts, rfl⟩ := List.mem_map.1 hdel
    exact ih t hts ((Part.composite order target hts .whole).trans ht)
  | listenable id inner ih => exact ih ((Part.listenable id .whole).trans ht)
  | journal j inner ih => exact ih ((Part.journal j .whole).trans ht)

/-- Only listeners of a kind are registered, and the given caches are coherent. -/
structure Standing (kind : Listener → Prop) (nodes : List (Nat × Tree)) (w : World) : Prop where
  heeds : w.Heeds kind
  coherent : Coherent nodes w

theorem Standing.subset {nodes' : List (Nat × Tree)} (h : Standing kind nodes w)
    (hsub : nodes' ⊆ nodes) : Standing kind nodes' w :=
  ⟨h.heeds, h.coherent.subset hsub⟩

/-- A read leaves the caches of its tree coherent. -/
theorem Standing.read (call : Caller World) (feature : String) (hd : t.Distinct)
    (hw : Standing kind t.caches w) :
    Standing kind t.caches (((t.repository call).read feature).after w) :=
  ⟨(t.readOnly_read call feature w).heeds hw.heeds,
    (read_of_coherent call feature hd.unambiguous (List.Subset.refl _) hw.coherent).2⟩

/-- Only listeners of a kind are registered, and the given caches are coherent for a feature. -/
structure StandingFor (kind : Listener → Prop) (feature : String) (nodes : List (Nat × Tree))
    (w : World) : Prop where
  heeds : w.Heeds kind
  coherent : CoherentFor feature nodes w

theorem standing_iff :
    Standing kind nodes w ↔ ∀ feature, StandingFor kind feature nodes w := by
  constructor
  · exact fun h feature => ⟨h.heeds, coherent_iff.1 h.coherent feature⟩
  · exact fun h => ⟨(h "").heeds, coherent_iff.2 fun feature => (h feature).coherent⟩

end Tree

/-! ## Writes -/

/-- Wherever the caches of a part of the tree are coherent for a feature, a call of a listener of
the kind leaves them so. While a write is under way, the caches that it is still to evict from need
not be coherent for its feature. -/
def Caller.Considerate (call : Caller World) (kind : Listener → Prop) (t : Tree) : Prop :=
  ∀ r previous current, kind r.listener → ∀ u : Tree, u.Part t → ∀ feature,
    Keeps (Preserves (Tree.StandingFor kind feature u.caches)) (call r previous current)

/-- Quiet listeners are considerate of every tree. -/
theorem Caller.Quiet.considerate {call : Caller World} {kind : Listener → Prop}
    (hq : call.Quiet kind) (t : Tree) : call.Considerate kind t := by
  intro r previous current hr u _ feature w hw
  have hs := hq.stores r previous current w hr
  have hc := hq.caches r previous current w hr
  refine ⟨hq.heeds r previous current w hr hw.heeds, hw.coherent.mono (fun n _ => ?_) ?_⟩
  · rw [World.kept_of_stores hs]
  · intro n _ entry hentry
    rw [hc] at hentry
    exact hentry

theorem Caller.Considerate.notify {call : Caller World} {kind : Listener → Prop} {t u : Tree}
    (hc : call.Considerate kind t) (hu : u.Part t) {feature : String} {s : FeatureState} (id : Nat)
    (previous : Option FeatureState) (w : World) :
    Preserves (Tree.StandingFor kind feature u.caches) w
      ((FeatureToggle.notify call previous s (w.listeners id)).after w) := by
  intro hw
  have hcall : ∀ r ∈ w.listeners id,
      Keeps (Preserves (Tree.StandingFor kind feature u.caches)) (call r previous s) :=
    fun r hr => hc r previous s (hw.heeds id r hr) u hu feature
  exact Repository.keeps_notify hcall w hw

namespace Tree

variable {call : Caller World} {kind : Listener → Prop} {s : FeatureState} {feature : String}
  {t : Tree} {w : World}

/-- A write through one part of a tree leaves the caches of another part coherent. It may disturb a
part that it only concerns from within, where the caches on the way are still to evict, but for no
other feature than its own. -/
theorem keeps_standingFor_write {r u : Tree} (hc : call.Considerate kind r) (hd : r.Distinct)
    (ht : t.Part r) (hu : u.Part r) (hclear : feature ≠ s.feature ∨ u.Part t ∨ t.Apart u) :
    Keeps (Preserves (StandingFor kind feature u.caches)) ((t.repository call).write s) := by
  induction t generalizing u with
  | store id =>
    intro w hw
    rw [Tree.repository, after_store_write]
    have hwithin := within_store_write id s w
    refine ⟨hw.heeds, hw.coherent.mono (fun n hn => answer_congr fun i hi => ?_) fun _ _ _ h => h⟩
    rcases hclear with hne | hpart | hapart
    · exact hwithin.store_answer i hne
    · cases hpart
      simp [caches] at hn
    · have hi' : i ∉ (Tree.store id).leaves :=
        fun hmem => hapart.leaves hmem (leaves_subset_of_mem_caches hn hi)
      exact congrArg (Store.answer · feature) (hwithin.kept_of_not_mem hi')
  | cache id ttl inner ih =>
    have hinner : inner.Part r := (Part.cache id ttl .whole).trans ht
    intro w hw
    rw [Tree.repository, after_cached_write]
    by_cases hwhole : u = .cache id ttl inner ∧ feature = s.feature
    · -- the cache evicts the feature, and what is behind it is coherent by induction
      obtain ⟨rfl, rfl⟩ := hwhole
      have hw' : StandingFor kind s.feature inner.caches w :=
        ⟨hw.heeds, hw.coherent.subset (List.subset_cons_self _ _)⟩
      have hafter := ih hinner hinner (.inr (.inl .whole)) w hw'
      refine ⟨hafter.heeds, fun n hn entry hentry => ?_⟩
      rcases List.mem_cons.1 hn with rfl | hn
      · simp [World.cache] at hentry
      · exact hafter.coherent.evict s.feature n hn entry hentry
    · have hclear' : feature ≠ s.feature ∨ u.Part inner ∨ inner.Apart u := by
        rcases hclear with hne | hpart | hapart
        · exact .inl hne
        · cases hpart with
          | whole => exact .inl fun heq => hwhole ⟨rfl, heq⟩
          | cache _ _ hpart => exact .inr (.inl hpart)
        · exact .inr (.inr (hapart.mono (.cache id ttl .whole) .whole))
      have hafter := ih hinner hu hclear' w hw
      exact ⟨hafter.heeds, hafter.coherent.evict s.feature⟩
  | composite order target ts ih =>
    have hd' := ht.distinct hd
    rw [Tree.repository, repositories_eq]
    refine keeps_composite_write order fun d hdel => ?_
    rw [WriteTarget.chosen_map] at hdel
    obtain ⟨t, hchosen, rfl⟩ := List.mem_map.1 hdel
    have hts := target.mem_of_mem_chosen hchosen
    have hpart (t' : Tree) (ht' : t' ∈ ts) : t'.Part r :=
      (Part.composite order target ht' .whole).trans ht
    by_cases hwhole : u = .composite order target ts ∧ feature = s.feature
    · obtain ⟨rfl, rfl⟩ := hwhole
      intro w hw
      have heach : ∀ t' ∈ ts, StandingFor kind s.feature t'.caches _ := fun t' ht' =>
        ih t hts (hpart t hts) (hpart t' ht') (.inr (hd'.part_or_apart hts ht' .whole)) w
          ⟨hw.heeds, hw.coherent.subset (caches_subset_composite ht')⟩
      refine ⟨(heach t hts).heeds, fun n hn => ?_⟩
      obtain ⟨t', ht', hn'⟩ := mem_caches_composite.1 hn
      exact (heach t' ht').coherent n hn'
    · refine ih t hts (hpart t hts) hu ?_
      rcases hclear with hne | hpart | hapart
      · exact .inl hne
      · cases hpart with
        | whole => exact .inl fun heq => hwhole ⟨rfl, heq⟩
        | composite _ _ ht' hpart => exact .inr (hd'.part_or_apart hts ht' hpart)
      · exact .inr (.inr (hapart.mono (.composite order target hts .whole) .whole))
  | listenable id inner ih =>
    have hinner : inner.Part r := (Part.listenable id .whole).trans ht
    have hread : Keeps (Preserves (StandingFor kind feature u.caches))
        ((inner.repository call).read s.feature) := fun w hw =>
      ⟨(inner.readOnly_read call s.feature w).heeds hw.heeds,
        keeps_coherentFor_read call hd hinner hu s.feature w hw.coherent⟩
    refine keeps_listenable_write hread ?_ fun previous w => hc.notify hu id previous w
    rcases hclear with hne | hpart | hapart
    · exact ih hinner hu (.inl hne)
    · cases hpart with
      | whole => exact ih (u := inner) hinner hinner (.inr (.inl .whole))
      | listenable _ hpart => exact ih hinner hu (.inr (.inl hpart))
    · exact ih hinner hu (.inr (.inr (hapart.mono (.listenable id .whole) .whole)))
  | journal j inner ih =>
    have hinner : inner.Part r := (Part.journal j .whole).trans ht
    rcases hclear with hne | hpart | hapart
    · exact ih hinner hu (.inl hne)
    · cases hpart with
      | whole => exact ih (u := inner) hinner hinner (.inr (.inl .whole))
      | journal _ hpart => exact ih hinner hu (.inr (.inl hpart))
    · exact ih hinner hu (.inr (.inr (hapart.mono (.journal j .whole) .whole)))

/-- Writes keep the caches of a tree coherent. -/
theorem preserves_write (hq : call.Quiet kind) (hd : t.Distinct) :
    Keeps (Preserves (Standing kind t.caches)) ((t.repository call).write s) := by
  intro w hw
  refine standing_iff.2 fun feature => ?_
  exact keeps_standingFor_write (hq.considerate t) hd .whole .whole (.inr (.inl .whole)) w
    (standing_iff.1 hw feature)

/-- The caches of a composite are coherent if those of the delegate are that was written. -/
theorem Standing.of_delegate {order : ReadOrder} {target : WriteTarget} {ts : List Tree} {v : World}
    (hd : (Tree.composite order target ts).Distinct) (ht : t ∈ ts)
    (hw : Standing kind (Tree.composite order target ts).caches w)
    (hwithin : Within t feature w v) (hv : Standing kind t.caches v) :
    Standing kind (Tree.composite order target ts).caches v := by
  refine ⟨hv.heeds, fun n hn => ?_⟩
  obtain ⟨u, hu, hnu⟩ := mem_caches_composite.1 hn
  by_cases htu : t = u
  · subst htu
    exact hv.coherent n hnu
  · have hcoherent := hw.coherent.subset (caches_subset_composite hu)
    exact hcoherent.of_apart hwithin (hd.apart ht hu htu) n hnu

/-! ## Between requests -/

theorem Standing.forget (hw : Standing kind t.caches w) (id : Nat) :
    Standing kind t.caches ((World.cache id).put .empty w) :=
  ⟨hw.heeds, coherent_iff.2 fun feature => (coherent_iff.1 hw.coherent feature).forget id⟩

theorem Standing.wait (hw : Standing kind t.caches w) (nanoseconds : Nat) :
    Standing kind t.caches { w with now := w.now + nanoseconds } :=
  ⟨hw.heeds, hw.coherent⟩

end Tree

end FeatureToggle
