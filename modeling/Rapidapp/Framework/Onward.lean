import Rapidapp.Framework.FrameSafety
import Rapidapp.Framework.Walk

/-!
# What an event does to connections and counters

For each event handler of `framework/rapidapp_framework_imp.cpp`, with any application behind
it: `World.Onward`, connections that are gone stay gone, the others stay in their pool, and
the cursor stays inside the pool of the frontends; and `World.Counted`, by how much the
counters of the connections may grow. Only `OnFrontEndMsg` counts, one for each package and
the bytes of all at the end.
-/

namespace Rapidapp

variable {σ γ : Type}

namespace World

/-! ## The state only goes on -/

/-- `w'` comes after `w` in a run. -/
structure Onward (w w' : World σ γ) : Prop where
  ok : Ok w'
  inside : w'.frontendHandlerMgr.PointsInside
  nextNet : w.heap.nextNet ≤ w'.heap.nextNet
  gone : ∀ {p}, p < w.heap.nextNet → w.heap.nets p = none → w'.heap.nets p = none
  pool : ∀ {side fd p n'}, (w.mgr side).handlerPool.lookup fd = some p →
    w'.heap.nets p = some n' → (w'.mgr side).handlerPool.lookup fd = some p

theorem Onward.refl {w : World σ γ} (h : Ok w) (hin : w.frontendHandlerMgr.PointsInside) :
    Onward w w :=
  ⟨h, hin, le_refl _, fun _ hp => hp, fun hp _ => hp⟩

/-- A connection that is there at the end was there in between. -/
theorem Onward.alive {w w' w'' : World σ γ} (h : Ok w) (hw : Onward w w') (hw' : Onward w' w'')
    {side : Side} {fd : Int} {p : NetPtr} {n'' : EasyNet γ}
    (hp : (w.mgr side).handlerPool.lookup fd = some p) (hp'' : w''.heap.nets p = some n'') :
    ∃ n', w'.heap.nets p = some n' := by
  obtain ⟨n, b, e, hl, _⟩ := h.entry hp
  cases hn' : w'.heap.nets p with
  | some n' => exact ⟨n', rfl⟩
  | none =>
    have hlt := lt_of_lt_of_le (h.heap.netLt hl.net) hw.nextNet
    cases (hw'.gone hlt hn').symm.trans hp''

theorem Onward.trans {w w' w'' : World σ γ} (h : Ok w) (hw : Onward w w') (hw' : Onward w' w'') :
    Onward w w'' where
  ok := hw'.ok
  inside := hw'.inside
  nextNet := le_trans hw.nextNet hw'.nextNet
  gone hlt hp := hw'.gone (lt_of_lt_of_le hlt hw.nextNet) (hw.gone hlt hp)
  pool hp hp'' := by
    obtain ⟨n', hn'⟩ := hw.alive h hw' hp hp''
    exact hw'.pool (hw.pool hp hn') hp''

theorem Onward.of_kept {w w' : World σ γ} (hk : Kept w w')
    (hin : w'.frontendHandlerMgr.PointsInside) : Onward w w' :=
  ⟨hk.1, hin, hk.2.nextNet, hk.2.gone, hk.2.pool⟩

theorem Onward.of_similar {w w' : World σ γ} (h : Ok w) (hs : Similar w w')
    (hin : w'.frontendHandlerMgr.PointsInside) : Onward w w' where
  ok := h.similar hs
  inside := hin
  nextNet := hs.nextNet
  gone _ hp := hs.netNone hp
  pool {side fd p n'} hp _ := by rw [hs.pool side]; exact hp

theorem onward_modifyNet {w : World σ γ} (h : Ok w) (hin : w.frontendHandlerMgr.PointsInside)
    (p : NetPtr) {f : EasyNet γ → EasyNet γ} (hf : ∀ n, (f n).hevent = n.hevent) :
    Onward w (w.modifyNet p f) := by
  rw [modifyNet]
  split
  · exact Onward.refl h hin
  · next n hn => exact Onward.of_similar h (similar_setNet w hn (hf n)) hin

theorem onward_setBev {w : World σ γ} (h : Ok w) (hin : w.frontendHandlerMgr.PointsInside)
    {b : BevPtr} {e e' : BufferEvent} (hb : w.heap.bevs b = some e) (hfd : e'.fd = e.fd) :
    Onward w { w with heap := w.heap.setBev b e' } :=
  Onward.of_similar h (similar_setBev w hb hfd) hin

theorem onward_evbufferDrain {w : World σ γ} (h : Ok w)
    (hin : w.frontendHandlerMgr.PointsInside) (b : BevPtr) (len : Nat) :
    Onward w (w.evbufferDrain b len) := by
  rw [evbufferDrain]
  split
  · exact Onward.refl h hin
  · next e he => exact onward_setBev h hin he rfl

/-- `RemoveHandler` moves the cursor off the entry it erases. -/
theorem inside_destroyNet {w : World σ γ} (hin : w.frontendHandlerMgr.PointsInside) (side : Side)
    (net : Option NetPtr) : (w.destroyNet side net).frontendHandlerMgr.PointsInside := by
  cases net with
  | none => exact hin
  | some p =>
    cases side with
    | backEnd => exact hin
    | frontEnd =>
      show (w.frontendHandlerMgr.removeHandler w.heap p).1.PointsInside
      rw [NetHandlerMgr.removeHandler]
      split
      · exact hin
      · exact hin.removeHandlerByEvent w.heap _

theorem onward_destroyNet {w : World σ γ} (h : Ok w) (hin : w.frontendHandlerMgr.PointsInside)
    (side : Side) (net : Option NetPtr) : Onward w (w.destroyNet side net) :=
  .of_kept (kept_destroyNet h side net) (inside_destroyNet hin side net)

theorem ApiStep.inside {w w' : World σ γ} (hs : ApiStep w w')
    (hin : w.frontendHandlerMgr.PointsInside) : w'.frontendHandlerMgr.PointsInside := by
  have hcreate : ∀ type connect,
      (w.createBackEnd type connect).2.frontendHandlerMgr = w.frontendHandlerMgr := by
    intro type connect
    obtain ⟨_, heq⟩ | ⟨fd, n, _, _, heq⟩ := createBackEnd_cases w type connect
    · rw [heq]
    · rw [heq]
      rfl
  cases hs with
  | app s => exact hin
  | setUserContext p c =>
    rw [World.setUserContext]
    split
    · exact hin
    · split <;> exact hin
  | sendToFrontEnd net buf =>
    obtain heq | ⟨p, _, heq⟩ := sendToFrontEnd_cases w net buf <;> rw [heq] <;> exact hin
  | sendToBackEnd net buf =>
    obtain heq | ⟨p, _, heq | ⟨n, _, heq⟩⟩ := sendToBackEnd_cases w net buf <;> rw [heq] <;>
      exact hin
  | destroyNet side net => exact inside_destroyNet hin side net
  | createBackEnd type connect _ => rw [hcreate]; exact hin
  | createRpc type connect rpc _ p _ =>
    rw [setRpcBinded]
    split
    · rw [hcreate]; exact hin
    · exact (hcreate type connect).symm ▸ hin

/-- Application code. -/
theorem ApiReach.onward {w w' : World σ γ} (hr : ApiReach w w') (h : Ok w)
    (hin : w.frontendHandlerMgr.PointsInside) : Onward w w' := by
  refine .of_kept (hr.kept h) ?_
  induction hr with
  | refl => exact hin
  | tail _ hs ih => exact hs.inside ih

/-! ## The counters of a connection -/

/-- A counter of the `EasyNet` at the address; nothing is counted for a dangling pointer. -/
def count (f : EasyNet γ → Nat) (w : World σ γ) (p : NetPtr) : Nat :=
  match w.heap.nets p with
  | none => 0
  | some n => f n

/-- From `w` to `w'` the counters of the connections grew by no more than this many packages and
bytes. -/
structure Counted (pkgs bytes : NetPtr → Nat) (w w' : World σ γ) : Prop where
  prevPkg : ∀ p, w'.count (·.prevPkgCount) p ≤ w.count (·.prevPkgCount) p
  currPkg : ∀ p, w'.count (·.currPkgCount) p ≤ w.count (·.currPkgCount) p + pkgs p
  prevTraffic : ∀ p, w'.count (·.prevTrafficBytes) p ≤ w.count (·.prevTrafficBytes) p
  currTraffic : ∀ p, w'.count (·.currTrafficBytes) p ≤ w.count (·.currTrafficBytes) p + bytes p

theorem Counted.trans {pkgs pkgs' bytes bytes' : NetPtr → Nat} {w w' w'' : World σ γ}
    (h : Counted pkgs bytes w w') (h' : Counted pkgs' bytes' w' w'') :
    Counted (pkgs + pkgs') (bytes + bytes') w w'' where
  prevPkg p := (h'.prevPkg p).trans (h.prevPkg p)
  currPkg p := by
    have := h.currPkg p
    have := h'.currPkg p
    rw [Pi.add_apply]
    omega
  prevTraffic p := (h'.prevTraffic p).trans (h.prevTraffic p)
  currTraffic p := by
    have := h.currTraffic p
    have := h'.currTraffic p
    rw [Pi.add_apply]
    omega

theorem Counted.mono {pkgs pkgs' bytes bytes' : NetPtr → Nat} {w w' : World σ γ}
    (h : Counted pkgs bytes w w') (hp : ∀ p, pkgs p ≤ pkgs' p) (hb : ∀ p, bytes p ≤ bytes' p) :
    Counted pkgs' bytes' w w' where
  prevPkg := h.prevPkg
  currPkg p := (h.currPkg p).trans (Nat.add_le_add_left (hp p) _)
  prevTraffic := h.prevTraffic
  currTraffic p := (h.currTraffic p).trans (Nat.add_le_add_left (hb p) _)

/-- Code that does not count. -/
theorem Counted.after {pkgs bytes : NetPtr → Nat} {w w' w'' : World σ γ}
    (h : Counted pkgs bytes w w') (h' : Counted 0 0 w' w'') : Counted pkgs bytes w w'' := by
  have hall := h.trans h'
  rwa [add_zero, add_zero] at hall

theorem count_of_some {w : World σ γ} {p : NetPtr} {n : EasyNet γ} (hn : w.heap.nets p = some n)
    (f : EasyNet γ → Nat) : w.count f p = f n := by
  rw [count, hn]

/-- Every object is new with zeroes in its counters, or has the counters it had. -/
theorem Counted.of_nets {w w' : World σ γ}
    (h : ∀ {p n'}, w'.heap.nets p = some n' →
      (n'.prevPkgCount = 0 ∧ n'.currPkgCount = 0 ∧ n'.prevTrafficBytes = 0 ∧
        n'.currTrafficBytes = 0) ∨
      ∃ n, w.heap.nets p = some n ∧ n'.prevPkgCount = n.prevPkgCount ∧
        n'.currPkgCount = n.currPkgCount ∧ n'.prevTrafficBytes = n.prevTrafficBytes ∧
        n'.currTrafficBytes = n.currTrafficBytes) : Counted 0 0 w w' := by
  have hle : ∀ f : EasyNet γ → Nat, (∀ p n', w'.heap.nets p = some n' →
      f n' = 0 ∨ ∃ n, w.heap.nets p = some n ∧ f n' = f n) →
      ∀ p, w'.count f p ≤ w.count f p := by
    intro f hf p
    cases hn' : w'.heap.nets p with
    | none =>
      rw [count, hn']
      exact Nat.zero_le _
    | some n' =>
      rw [count_of_some hn']
      obtain hz | ⟨n, hn, heq⟩ := hf p n' hn'
      · rw [hz]
        exact Nat.zero_le _
      · rw [count_of_some hn, heq]
  refine ⟨hle _ fun p n' hn' => ?_, hle _ fun p n' hn' => ?_, hle _ fun p n' hn' => ?_,
    hle _ fun p n' hn' => ?_⟩
  · exact (h hn').imp (fun hz => hz.1) fun ⟨n, hn, heq⟩ => ⟨n, hn, heq.1⟩
  · exact (h hn').imp (fun hz => hz.2.1) fun ⟨n, hn, heq⟩ => ⟨n, hn, heq.2.1⟩
  · exact (h hn').imp (fun hz => hz.2.2.1) fun ⟨n, hn, heq⟩ => ⟨n, hn, heq.2.2.1⟩
  · exact (h hn').imp (fun hz => hz.2.2.2) fun ⟨n, hn, heq⟩ => ⟨n, hn, heq.2.2.2⟩

theorem Counted.of_nets_eq {w w' : World σ γ} (h : w'.heap.nets = w.heap.nets) :
    Counted 0 0 w w' :=
  .of_nets fun {_ n'} hn' => .inr ⟨n', h ▸ hn', rfl, rfl, rfl, rfl⟩

theorem Counted.refl (w : World σ γ) : Counted 0 0 w w := .of_nets_eq rfl

/-- A store through the pointer that leaves the counters alone. -/
theorem counted_setNet (w : World σ γ) {p : NetPtr} {n n' : EasyNet γ}
    (hn : w.heap.nets p = some n) (hsame : n'.prevPkgCount = n.prevPkgCount ∧
      n'.currPkgCount = n.currPkgCount ∧ n'.prevTrafficBytes = n.prevTrafficBytes ∧
      n'.currTrafficBytes = n.currTrafficBytes) :
    Counted 0 0 w { w with heap := w.heap.setNet p n' } := by
  refine .of_nets fun {q m'} hm' => .inr ?_
  by_cases hq : q = p
  · subst hq
    have hself : (w.heap.setNet q n').nets q = some n' := Function.update_self _ _ _
    obtain rfl := Option.some.inj (hself.symm.trans hm')
    exact ⟨n, hn, hsame⟩
  · exact ⟨m', (Function.update_of_ne hq _ _).symm.trans hm', rfl, rfl, rfl, rfl⟩

theorem counted_eraseAt {w : World σ γ} (h : Ok w) {side : Side} {fd : Int} {p : NetPtr}
    (hp : (w.mgr side).handlerPool.lookup fd = some p) : Counted 0 0 w (w.eraseAt side fd p) := by
  obtain ⟨n, b, e, hl, _⟩ := h.entry hp
  refine .of_nets fun {q m'} hm' => .inr ⟨m', ?_, rfl, rfl, rfl, rfl⟩
  rw [w.heap_eraseAt side fd hl] at hm'
  by_cases hq : q = p
  · subst hq
    simp [Heap.release] at hm'
  · exact (Function.update_of_ne hq _ _).symm.trans hm'

theorem counted_openAt (w : World σ γ) (side : Side) (fd type : Int) (state : NetState) :
    Counted 0 0 w (w.openAt side fd type state) := by
  refine .of_nets fun {q m'} hm' => ?_
  rw [nets_openAt] at hm'
  by_cases hq : q = w.heap.nextNet
  · subst hq
    simp only [Function.update_self] at hm'
    obtain rfl := Option.some.inj hm'
    exact .inl ⟨rfl, rfl, rfl, rfl⟩
  · exact .inr ⟨m', (Function.update_of_ne hq _ _).symm.trans hm', rfl, rfl, rfl, rfl⟩

theorem counted_destroyNet {w : World σ γ} (h : Ok w) (side : Side) (net : Option NetPtr) :
    Counted 0 0 w (w.destroyNet side net) := by
  obtain heq | ⟨p, n, b, e, _, _, hp, heq⟩ := destroyNet_cases h side net
  · rw [heq]
    exact Counted.refl w
  · rw [heq]
    exact counted_eraseAt h hp

theorem counted_createBackEnd {w : World σ γ} (h : Ok w) (type : Int) (connect : Option Int) :
    Counted 0 0 w (w.createBackEnd type connect).2 := by
  obtain ⟨_, heq⟩ | ⟨fd, n, _, hn, heq⟩ := createBackEnd_cases w type connect
  · rw [heq]
    exact .of_nets_eq (funext fun q => nets_newDelete h q)
  · rw [heq]
    exact (counted_openAt w .backEnd fd type .netConnecting).after
      (counted_setNet _ hn ⟨rfl, rfl, rfl, rfl⟩)

/-- Application code does not count. -/
theorem ApiStep.counted {w w' : World σ γ} (hs : ApiStep w w') (h : Ok w) :
    Counted 0 0 w w' := by
  have hsend : ∀ p buf, Counted 0 0 w { w with heap := (w.heap.send p buf).2 } := by
    intro p buf
    obtain ⟨_, hw, _⟩ := w.heap.wrote_send p buf
    exact .of_nets_eq hw.nets
  cases hs with
  | app s => exact .of_nets_eq rfl
  | setUserContext p c =>
    rw [World.setUserContext]
    split
    · exact Counted.refl w
    · next n hn =>
      split
      · exact Counted.refl w
      · exact counted_setNet w hn ⟨rfl, rfl, rfl, rfl⟩
  | sendToFrontEnd net buf =>
    obtain heq | ⟨p, _, heq⟩ := sendToFrontEnd_cases w net buf <;> rw [heq]
    · exact Counted.refl w
    · exact hsend p buf
  | sendToBackEnd net buf =>
    obtain heq | ⟨p, _, heq | ⟨n, hn, heq⟩⟩ := sendToBackEnd_cases w net buf <;> rw [heq]
    · exact Counted.refl w
    · exact hsend p buf
    · exact (hsend p buf).after (counted_setNet _ hn ⟨rfl, rfl, rfl, rfl⟩)
  | destroyNet side net => exact counted_destroyNet h side net
  | createBackEnd type connect _ => exact counted_createBackEnd h type connect
  | createRpc type connect rpc _ p _ =>
    have hcreate := counted_createBackEnd h type connect
    rw [setRpcBinded]
    split
    · exact hcreate
    · next n hn => exact hcreate.after (counted_setNet _ hn ⟨rfl, rfl, rfl, rfl⟩)

theorem ApiReach.counted {w w' : World σ γ} (hr : ApiReach w w') (h : Ok w) :
    Counted 0 0 w w' := by
  induction hr with
  | refl => exact Counted.refl w
  | tail hr hs ih => exact ih.after (hs.counted (ApiReach.kept h hr).1)

end World

/-! ## What is received on a connection -/

/-- Packages of the connection among those handed out. -/
def pkgsOf (ds : List Dispatch) (p : NetPtr) : Nat := (ds.filter (·.net = p)).length

/-- Bytes of the packages of the connection. -/
def bytesOf (ds : List Dispatch) (p : NetPtr) : Nat :=
  ((ds.filter (·.net = p)).map (·.msglen)).sum

theorem pkgsOf_append (ds ds' : List Dispatch) (p : NetPtr) :
    pkgsOf (ds ++ ds') p = pkgsOf ds p + pkgsOf ds' p := by
  rw [pkgsOf, List.filter_append, List.length_append]
  rfl

theorem bytesOf_append (ds ds' : List Dispatch) (p : NetPtr) :
    bytesOf (ds ++ ds') p = bytesOf ds p + bytesOf ds' p := by
  rw [bytesOf, List.filter_append, List.map_append, List.sum_append]
  rfl

namespace World

theorem count_modifyNet (w : World σ γ) (p q : NetPtr) {f : EasyNet γ → EasyNet γ}
    (g : EasyNet γ → Nat) {k : Nat} (hf : ∀ n, g (f n) ≤ g n + k) :
    (w.modifyNet p f).count g q ≤ w.count g q + if q = p then k else 0 := by
  rw [modifyNet]
  split
  · exact Nat.le_add_right _ _
  · next n hn =>
    split_ifs with hq
    · rw [hq, count_of_some hn]
      exact (count_of_some (Function.update_self _ _ _) g).trans_le (hf n)
    · rw [count, count]
      have hsame : (w.heap.setNet p (f n)).nets q = w.heap.nets q := Function.update_of_ne hq _ _
      rw [hsame]
      exact Nat.le_add_right _ _

/-- `++(easy_net->curr_pkg_count_)`. -/
theorem counted_countPkg (w : World σ γ) (p : NetPtr) :
    Counted (fun q => if q = p then 1 else 0) 0 w (w.modifyNet p countPkg) where
  prevPkg q := by
    have h := count_modifyNet w p q (f := countPkg) (·.prevPkgCount) (k := 0) fun n => le_rfl
    simpa using h
  currPkg q := count_modifyNet w p q _ fun n => CInt.uint64_le (n.currPkgCount + 1)
  prevTraffic q := by
    have h := count_modifyNet w p q (f := countPkg) (·.prevTrafficBytes) (k := 0) fun n => le_rfl
    simpa using h
  currTraffic q := by
    have h := count_modifyNet w p q (f := countPkg) (·.currTrafficBytes) (k := 0) fun n => le_rfl
    simpa using h

/-- `easy_net->curr_traffic_bytes_ += elapsed_msglen`. -/
theorem counted_countTraffic (w : World σ γ) (p : NetPtr) (elapsed : Nat) (now : Int) :
    Counted 0 (fun q => if q = p then elapsed else 0) w
      (w.modifyNet p (countTraffic elapsed now)) where
  prevPkg q := by
    have h := count_modifyNet w p q (f := countTraffic elapsed now) (·.prevPkgCount) (k := 0)
      fun n => le_rfl
    simpa using h
  currPkg q := by
    have h := count_modifyNet w p q (f := countTraffic elapsed now) (·.currPkgCount) (k := 0)
      fun n => le_rfl
    simpa using h
  prevTraffic q := by
    have h := count_modifyNet w p q (f := countTraffic elapsed now) (·.prevTrafficBytes) (k := 0)
      fun n => le_rfl
    simpa using h
  currTraffic q := count_modifyNet w p q _ fun n => CInt.uint64_le (n.currTrafficBytes + elapsed)

end World

namespace Monitor

/-- From `m` to `m'` the payloads `ds` were handed out and counted, with these bytes. -/
structure Handled (ds : List Dispatch) (bytes : NetPtr → Nat) (m m' : Monitor σ γ) : Prop where
  onward : World.Onward m.world m'.world
  handed : m'.handed = m.handed ++ ds
  counted : World.Counted (pkgsOf ds) bytes m.world m'.world

theorem Handled.of_world {m m' : Monitor σ γ} (honward : World.Onward m.world m'.world)
    (hhanded : m'.handed = m.handed) (hcounted : World.Counted 0 0 m.world m'.world) :
    Handled [] 0 m m' :=
  ⟨honward, by rw [hhanded, List.append_nil], hcounted⟩

theorem Handled.trans {ds ds' : List Dispatch} {bytes bytes' : NetPtr → Nat}
    {m m' m'' : Monitor σ γ} (h : m.world.Ok) (hm : Handled ds bytes m m')
    (hm' : Handled ds' bytes' m' m'') : Handled (ds ++ ds') (bytes + bytes') m m'' where
  onward := hm.onward.trans h hm'.onward
  handed := by rw [hm'.handed, hm.handed, List.append_assoc]
  counted := by
    have hsum : pkgsOf (ds ++ ds') = pkgsOf ds + pkgsOf ds' := funext (pkgsOf_append ds ds')
    rw [hsum]
    exact hm.counted.trans hm'.counted

/-- The ways through the loop of `OnFrontEndMsg`: a handler runs and the package is counted, or
the request is refused. -/
theorem world_frontEndBody (app : App σ γ) (p : NetPtr) (buf : List UInt8)
    (elapsed msglen : Nat) (m : Monitor σ γ) :
    (∃ w, World.ApiReach m.world w ∧
      (frontEndBody app p buf elapsed msglen m).1.world = w.modifyNet p World.countPkg ∧
      (frontEndBody app p buf elapsed msglen m).2 = true) ∨
    ((frontEndBody app p buf elapsed msglen m).1.world = m.world.destroyFrontEnd (some p) ∧
      (frontEndBody app p buf elapsed msglen m).2 = false) := by
  unfold frontEndBody
  cases m.world.svcMode with
  | normal => exact .inl ⟨_, app.onRecvFrontEnd_api _ _ _ _ _, rfl, rfl⟩
  | rpc =>
    have hworld : (m.hand .frontEnd p buf elapsed msglen).world = m.world := rfl
    obtain ⟨_, hmsg⟩ | ⟨_, ret, w, hret, hmsg, hreach⟩ :=
      World.onFrontEndRpcMsg_cases app p (payloadBytes buf elapsed msglen)
        (payloadSize msglen) m.world
    · refine .inr ?_
      simp only [hworld, hmsg]
      exact ⟨rfl, rfl⟩
    · refine .inl ⟨w, hreach, ?_⟩
      simp only [hworld, hmsg, if_neg (not_lt.mpr hret)]
      exact ⟨rfl, trivial⟩

theorem pkgsOf_singleton (d : Dispatch) :
    pkgsOf [d] = fun q => if q = d.net then 1 else 0 := by
  funext q
  by_cases hq : q = d.net
  · simp [pkgsOf, hq]
  · simp [pkgsOf, hq, Ne.symm hq]

/-- One package of a frontend. -/
theorem handled_frontEndBody {m : Monitor σ γ} (h : m.world.Ok)
    (hin : m.world.frontendHandlerMgr.PointsInside) (app : App σ γ) (p : NetPtr)
    (buf : List UInt8) (elapsed msglen : Nat) :
    ∃ d, Handled [d] 0 m (frontEndBody app p buf elapsed msglen m).1 ∧ d.net = p ∧
      d.msglen = msglen := by
  obtain ⟨⟨i, hhanded⟩, _, _⟩ := handed_frameBody app .frontEnd p buf elapsed msglen m
  refine ⟨Dispatch.ofFrame p buf elapsed msglen i, ⟨?_, hhanded, ?_⟩, rfl, rfl⟩
  · obtain ⟨w, hreach, hw, _⟩ | ⟨hw, _⟩ := world_frontEndBody app p buf elapsed msglen m
    · have honward := World.ApiReach.onward hreach h hin
      rw [hw]
      exact honward.trans h (World.onward_modifyNet honward.ok honward.inside p fun _ => rfl)
    · rw [hw]
      exact World.onward_destroyNet h hin .frontEnd _
  · rw [pkgsOf_singleton]
    obtain ⟨w, hreach, hw, _⟩ | ⟨hw, _⟩ := world_frontEndBody app p buf elapsed msglen m
    · rw [hw]
      have hcount := (World.ApiReach.counted hreach h).trans (World.counted_countPkg w p)
      rwa [zero_add, zero_add] at hcount
    · rw [hw]
      exact (World.counted_destroyNet h .frontEnd (some p)).mono (fun _ => Nat.zero_le _)
        fun _ => le_rfl

theorem handled_foldFrames {m : Monitor σ γ} (h : m.world.Ok)
    (hin : m.world.frontendHandlerMgr.PointsInside) (app : App σ γ) (p : NetPtr)
    (buf : List UInt8) (elapsed : Nat) (lens : List Nat) :
    ∃ m' elapsed' cont ds,
      foldFrames (frontEndBody app p buf) elapsed lens m = (m', elapsed', cont) ∧
        Handled ds 0 m m' ∧ elapsed' ≤ elapsed + bytesOf ds p := by
  induction lens generalizing m elapsed with
  | nil =>
    exact ⟨m, elapsed, true, [], rfl, .of_world (.refl h hin) rfl (.refl _), le_rfl⟩
  | cons msglen rest ih =>
    obtain ⟨d, hd, hnet, hlen⟩ := handled_frontEndBody h hin app p buf elapsed msglen
    rw [foldFrames]
    generalize frontEndBody app p buf elapsed msglen m = r at hd ⊢
    obtain ⟨m₁, cont⟩ := r
    cases cont with
    | false => exact ⟨m₁, elapsed, false, [d], rfl, hd, Nat.le_add_right _ _⟩
    | true =>
      obtain ⟨m', elapsed', cont, ds, hfold, hds, hle⟩ :=
        ih hd.onward.ok hd.onward.inside (elapsed + msglen)
      refine ⟨m', elapsed', cont, [d] ++ ds, hfold, ?_, hle.trans ?_⟩
      · have hboth := hd.trans h hds
        rwa [zero_add] at hboth
      · have hone : bytesOf [d] p = msglen := by simp [bytesOf, hnet, hlen]
        rw [bytesOf_append, hone]
        omega

/-- One run of `OnFrontEndMsg`. -/
theorem handled_onFrontEndMsg {m : Monitor σ γ} (h : m.world.Ok)
    (hin : m.world.frontendHandlerMgr.PointsInside) (app : App σ γ) (b : BevPtr) :
    ∃ m' ds, onFrontEndMsg app m b = some m' ∧ Handled ds (bytesOf ds) m m' := by
  have hnothing : Handled [] (bytesOf []) m m := .of_world (.refl h hin) rfl (.refl _)
  unfold onFrontEndMsg
  cases m.world.heap.bevs b with
  | none => exact ⟨m, [], rfl, hnothing⟩
  | some e =>
    dsimp only
    cases m.world.frontendHandlerMgr.getHandlerByEvent m.world.heap b with
    | none => exact ⟨m, [], rfl, hnothing⟩
    | some p =>
      dsimp only
      generalize e.input.take m.world.frontendHandlerMgr.recvBuffer.size = buf
      have hloop := frameLoop_eq (frontEndBody app p buf) buf
        (show buf.length - 0 < buf.length + 1 by omega) (m.touch .frontEnd p)
      obtain ⟨m₁, elapsed, cont, ds, hfold, hds, hle⟩ :=
        handled_foldFrames (m := m.touch .frontEnd p) h hin app p buf 0 (msgDecoder.cuts buf)
      rw [List.drop_zero, hfold] at hloop
      rw [hloop]
      have hds : Handled ds 0 m m₁ := ⟨hds.onward, hds.handed, hds.counted⟩
      cases cont with
      | false =>
        exact ⟨m₁, ds, rfl, hds.onward, hds.handed,
          hds.counted.mono (fun _ => le_rfl) fun _ => Nat.zero_le _⟩
      | true =>
        refine ⟨_, ds, rfl, ?_, hds.handed, ?_⟩
        · have hdrain := World.onward_evbufferDrain hds.onward.ok hds.onward.inside b elapsed
          have htraffic := World.onward_modifyNet hdrain.ok hdrain.inside p
            (f := World.countTraffic elapsed (m₁.world.evbufferDrain b elapsed).now) fun _ => rfl
          exact (hds.onward.trans h hdrain).trans h htraffic
        · have hdrain : World.Counted 0 0 m₁.world (m₁.world.evbufferDrain b elapsed) :=
            .of_nets_eq (by rw [World.evbufferDrain]; split <;> rfl)
          have hall := (hds.counted.after hdrain).trans (World.counted_countTraffic
            (m₁.world.evbufferDrain b elapsed) p elapsed (m₁.world.evbufferDrain b elapsed).now)
          rw [add_zero, zero_add] at hall
          refine hall.mono (fun _ => le_rfl) fun q => ?_
          split_ifs with hq
          · rw [hq]
            omega
          · exact Nat.zero_le _

/-- The loop of `OnBackEndMsg` runs application code only. -/
theorem reach_backEndBody (app : App σ γ) (p : NetPtr) (buf : List UInt8) (elapsed msglen : Nat)
    (m : Monitor σ γ) :
    World.ApiReach m.world (backEndBody app p buf elapsed msglen m).1.world := by
  unfold backEndBody
  dsimp only
  split
  · split
    · exact app.rpcResume_api _ _ _ _
    · exact app.onRecvBackEnd_api _ _ _ _ _
  · exact app.onRecvBackEnd_api _ _ _ _ _

/-- One package of a backend: nothing is counted. -/
theorem handled_backEndBody {m : Monitor σ γ} (h : m.world.Ok)
    (hin : m.world.frontendHandlerMgr.PointsInside) (app : App σ γ) (p : NetPtr)
    (buf : List UInt8) (elapsed msglen : Nat) :
    ∃ d, Handled [d] 0 m (backEndBody app p buf elapsed msglen m).1 := by
  obtain ⟨⟨i, hhanded⟩, _, _⟩ := handed_frameBody app .backEnd p buf elapsed msglen m
  have hreach := reach_backEndBody app p buf elapsed msglen m
  exact ⟨_, World.ApiReach.onward hreach h hin, hhanded,
    (World.ApiReach.counted hreach h).mono (fun _ => Nat.zero_le _) fun _ => le_rfl⟩

theorem handled_foldFrames_backEnd {m : Monitor σ γ} (h : m.world.Ok)
    (hin : m.world.frontendHandlerMgr.PointsInside) (app : App σ γ) (p : NetPtr)
    (buf : List UInt8) (elapsed : Nat) (lens : List Nat) :
    ∃ m' elapsed' cont ds,
      foldFrames (backEndBody app p buf) elapsed lens m = (m', elapsed', cont) ∧
        Handled ds 0 m m' := by
  induction lens generalizing m elapsed with
  | nil => exact ⟨m, elapsed, true, [], rfl, .of_world (.refl h hin) rfl (.refl _)⟩
  | cons msglen rest ih =>
    obtain ⟨d, hd⟩ := handled_backEndBody h hin app p buf elapsed msglen
    rw [foldFrames]
    generalize backEndBody app p buf elapsed msglen m = r at hd ⊢
    obtain ⟨m₁, cont⟩ := r
    cases cont with
    | false => exact ⟨m₁, elapsed, false, [d], rfl, hd⟩
    | true =>
      obtain ⟨m', elapsed', cont, ds, hfold, hds⟩ :=
        ih hd.onward.ok hd.onward.inside (elapsed + msglen)
      have hboth := hd.trans h hds
      rw [zero_add] at hboth
      exact ⟨m', elapsed', cont, [d] ++ ds, hfold, hboth⟩

theorem handled_onBackEndMsg {m : Monitor σ γ} (h : m.world.Ok)
    (hin : m.world.frontendHandlerMgr.PointsInside) (app : App σ γ) (b : BevPtr) :
    ∃ m' ds, onBackEndMsg app m b = some m' ∧ Handled ds (bytesOf ds) m m' := by
  have hnothing : Handled [] (bytesOf []) m m := .of_world (.refl h hin) rfl (.refl _)
  unfold onBackEndMsg
  cases m.world.heap.bevs b with
  | none => exact ⟨m, [], rfl, hnothing⟩
  | some e =>
    dsimp only
    cases m.world.backendHandlerMgr.getHandlerByEvent m.world.heap b with
    | none => exact ⟨m, [], rfl, hnothing⟩
    | some p =>
      dsimp only
      generalize e.input.take m.world.backendHandlerMgr.recvBuffer.size = buf
      have hloop := frameLoop_eq (backEndBody app p buf) buf
        (show buf.length - 0 < buf.length + 1 by omega) (m.touch .backEnd p)
      obtain ⟨m₁, elapsed, cont, ds, hfold, hds⟩ := handled_foldFrames_backEnd
        (m := m.touch .backEnd p) h hin app p buf 0 (msgDecoder.cuts buf)
      rw [List.drop_zero, hfold] at hloop
      rw [hloop]
      have hds : Handled ds 0 m m₁ := ⟨hds.onward, hds.handed, hds.counted⟩
      have hdrain : World.Counted 0 0 m₁.world (m₁.world.evbufferDrain b elapsed) :=
        .of_nets_eq (by rw [World.evbufferDrain]; split <;> rfl)
      refine ⟨_, ds, rfl, ?_, hds.handed, ?_⟩
      · exact hds.onward.trans h
          (World.onward_evbufferDrain hds.onward.ok hds.onward.inside b elapsed)
      · exact (hds.counted.after hdrain).mono (fun _ => le_rfl) fun _ => Nat.zero_le _

/-- Bytes arrive and the handler runs. -/
theorem handled_arrive {m : Monitor σ γ} (h : m.world.Ok)
    (hin : m.world.frontendHandlerMgr.PointsInside) (app : App σ γ) (side : Side) (b : BevPtr)
    (chunk : List UInt8) :
    ∃ m' ds, arrive app side b m chunk = some m' ∧ Handled ds (bytesOf ds) m m' := by
  unfold arrive
  cases hb : m.world.heap.bevs b with
  | none => exact ⟨m, [], rfl, .of_world (.refl h hin) rfl (.refl _)⟩
  | some e =>
    dsimp only
    have hfd : ({ e with input := e.input ++ chunk } : BufferEvent).fd = e.fd := rfl
    have hadd := World.onward_setBev h hin hb hfd
    generalize hm₁ : m.goTo { m.world with
      heap := m.world.heap.setBev b { e with input := e.input ++ chunk } } = m₁
    have hfirst : Handled [] 0 m m₁ := by
      subst hm₁
      exact .of_world hadd rfl (.of_nets_eq rfl)
    have hmsg : ∃ m' ds, onMsg app side m₁ b = some m' ∧ Handled ds (bytesOf ds) m₁ m' := by
      cases side with
      | frontEnd => exact handled_onFrontEndMsg hfirst.onward.ok hfirst.onward.inside app b
      | backEnd => exact handled_onBackEndMsg hfirst.onward.ok hfirst.onward.inside app b
    obtain ⟨m', ds, hrun, hds⟩ := hmsg
    have hall := hfirst.trans h hds
    rw [List.nil_append, zero_add] at hall
    exact ⟨m', ds, hrun, hall⟩

end Monitor

/-! ## The other events -/

namespace World

theorem onward_eraseAt {w : World σ γ} (h : Ok w) (hin : w.frontendHandlerMgr.PointsInside)
    {fd : Int} {p : NetPtr} (hp : w.frontendHandlerMgr.handlerPool.lookup fd = some p) :
    Onward w (w.eraseAt .frontEnd fd p) := by
  have hp : (w.mgr .frontEnd).handlerPool.lookup fd = some p := hp
  exact .of_kept ⟨h.eraseAt hp, h.stable_eraseAt hp⟩ (hin.eraseEntry w.heap fd p)

theorem onward_openAt {w : World σ γ} (h : Ok w) (hin : w.frontendHandlerMgr.PointsInside)
    {fd : Int} (hfd : w.FreshFd fd) (type : Int) (state : NetState) :
    Onward w (w.openAt .frontEnd fd type state) :=
  .of_kept ⟨h.openAt .frontEnd hfd type state, h.stable_openAt .frontEnd hfd type state⟩
    (hin.addHandlerToMap _ _)

/-- `RemoveHandlerByEvent` of the frontends: there is no entry, or it goes. -/
theorem removeHandlerByEvent_cases {w : World σ γ} (b : BevPtr) :
    w.setMgr .frontEnd (w.frontendHandlerMgr.removeHandlerByEvent w.heap b) = w ∨
    ∃ fd p, w.frontendHandlerMgr.handlerPool.lookup fd = some p ∧
      w.setMgr .frontEnd (w.frontendHandlerMgr.removeHandlerByEvent w.heap b) =
        w.eraseAt .frontEnd fd p := by
  rw [NetHandlerMgr.removeHandlerByEvent]
  cases hp : w.frontendHandlerMgr.getHandlerByEvent w.heap b with
  | none => exact .inl rfl
  | some p => exact .inr ⟨_, p, hp, rfl⟩

/-- What an event does to connections and counters. -/
abbrev Quiet (w w' : World σ γ) : Prop := Onward w w' ∧ Counted 0 0 w w'

theorem Quiet.trans {w w' w'' : World σ γ} (h : Ok w) (hw : Quiet w w') (hw' : Quiet w' w'') :
    Quiet w w'' :=
  ⟨hw.1.trans h hw'.1, hw.2.after hw'.2⟩

theorem quiet_setNet {w : World σ γ} (h : Ok w) (hin : w.frontendHandlerMgr.PointsInside)
    {p : NetPtr} {n m : EasyNet γ} (hp : w.heap.nets p = some n) (hev : m.hevent = n.hevent)
    (hsame : m.prevPkgCount = n.prevPkgCount ∧ m.currPkgCount = n.currPkgCount ∧
      m.prevTrafficBytes = n.prevTrafficBytes ∧ m.currTrafficBytes = n.currTrafficBytes) :
    Quiet w { w with heap := w.heap.setNet p m } :=
  ⟨.of_similar h (similar_setNet w hp hev) hin, counted_setNet w hp hsame⟩

theorem ApiReach.quiet {w w' : World σ γ} (hr : ApiReach w w') (h : Ok w)
    (hin : w.frontendHandlerMgr.PointsInside) : Quiet w w' :=
  ⟨hr.onward h hin, hr.counted h⟩

theorem quiet_removeHandlerByEvent {w : World σ γ} (h : Ok w)
    (hin : w.frontendHandlerMgr.PointsInside) (b : BevPtr) :
    Quiet w (w.setMgr .frontEnd (w.frontendHandlerMgr.removeHandlerByEvent w.heap b)) := by
  obtain heq | ⟨fd, p, hp, heq⟩ := w.removeHandlerByEvent_cases b
  · rw [heq]
    exact ⟨.refl h hin, .refl w⟩
  · have hp' : (w.mgr .frontEnd).handlerPool.lookup fd = some p := hp
    rw [heq]
    exact ⟨onward_eraseAt h hin hp, counted_eraseAt h hp'⟩

theorem quiet_onFrontEndSocketEvent {onClose : NetPtr → World σ γ → World σ γ}
    (hclose : ∀ p w, ApiReach w (onClose p w)) {w : World σ γ} (h : Ok w)
    (hin : w.frontendHandlerMgr.PointsInside) (b : BevPtr) (events : BevEvents) :
    Quiet w (w.onFrontEndSocketEvent onClose b events) := by
  have hnothing : Quiet w w := ⟨.refl h hin, .refl w⟩
  have hgone : Quiet w (w.closeFrontEnd onClose b) := by
    rw [closeFrontEnd]
    cases w.frontendHandlerMgr.getHandlerByEvent w.heap b with
    | none => exact quiet_removeHandlerByEvent h hin b
    | some p =>
      have hcode := (hclose p w).quiet h hin
      exact hcode.trans h (quiet_removeHandlerByEvent hcode.1.ok hcode.1.inside b)
  rw [onFrontEndSocketEvent]
  split_ifs
  · exact hgone
  · exact hnothing
  · exact hgone
  · exact hnothing

theorem quiet_onBackEndSocketEvent {w : World σ γ} (h : Ok w)
    (hin : w.frontendHandlerMgr.PointsInside) (b : BevPtr) (events : BevEvents) :
    Quiet w (w.onBackEndSocketEvent b events) := by
  have hnothing : Quiet w w := ⟨.refl h hin, .refl w⟩
  have hstate : ∀ state, Quiet w (w.changeBackEndState b state) := by
    intro state
    rw [changeBackEndState, NetHandlerMgr.changeNetStateByEvent]
    cases w.backendHandlerMgr.getHandlerByEvent w.heap b with
    | none => exact hnothing
    | some p =>
      dsimp only
      cases hp : w.heap.nets p with
      | none => exact hnothing
      | some n => exact quiet_setNet h hin hp rfl ⟨rfl, rfl, rfl, rfl⟩
  rw [onBackEndSocketEvent]
  split_ifs
  · exact hstate _
  · exact hstate _
  · exact hnothing
  · exact hstate _
  · exact hnothing

/-- A frontend is accepted, or not. -/
theorem quiet_onFrontEndConnect [Inhabited γ] {onConnect : NetPtr → World σ γ → World σ γ}
    (hconnect : ∀ p w, ApiReach w (onConnect p w)) {w : World σ γ} (h : Ok w)
    (hin : w.frontendHandlerMgr.PointsInside) {fd : Int} (hfd : w.FreshFd fd)
    (bevOk callocOk : Bool) : Quiet w (w.onFrontEndConnect onConnect fd bevOk callocOk) := by
  have hneg : ¬ fd < 0 := not_lt.mpr hfd.1
  cases bevOk with
  | false =>
    simp only [onFrontEndConnect, NetHandlerMgr.addHandlerBySocket, hneg, if_false,
      Bool.false_eq_true]
    exact ⟨.of_similar h (similar_newDelete h) hin,
      .of_nets_eq (funext fun q => nets_newDelete h q)⟩
  | true =>
    have hopen : Quiet w (w.openAt .frontEnd fd 0 .netEstablished) :=
      ⟨onward_openAt h hin hfd 0 .netEstablished, counted_openAt w .frontEnd fd 0 .netEstablished⟩
    have hheap := w.heap_openAt .frontEnd fd 0 .netEstablished
    have hadd : w.frontendHandlerMgr.addHandlerBySocket w.heap fd 0 true =
        (some w.heap.nextNet, (w.openAt .frontEnd fd 0 .netEstablished).frontendHandlerMgr,
          (w.openAt .frontEnd fd 0 .netEstablished).heap) := by
      simp only [NetHandlerMgr.addHandlerBySocket, hneg, if_false]
      rfl
    have hworld : ∀ r, w.setMgr .frontEnd r =
        (w.openAt .frontEnd fd 0 .netEstablished).setMgr .frontEnd r := fun _ => rfl
    have hp := (w.live_openAt .frontEnd fd 0 .netEstablished).net
    rw [onFrontEndConnect, hadd]
    generalize w.openAt .frontEnd fd 0 .netEstablished = w₁ at hopen hp hworld ⊢
    dsimp only
    rw [Heap.createUserContext, hp]
    dsimp only
    cases callocOk with
    | false =>
      rw [if_neg Bool.false_ne_true]
      dsimp only
      rw [hworld]
      have hdestroy : Quiet w₁ (w₁.destroyNet .frontEnd (some w.heap.nextNet)) :=
        ⟨onward_destroyNet hopen.1.ok hopen.1.inside .frontEnd _,
          counted_destroyNet hopen.1.ok .frontEnd _⟩
      exact hopen.trans h hdestroy
    | true =>
      rw [if_pos rfl]
      dsimp only
      have hself : ∀ n : EasyNet γ, (w₁.heap.setNet w.heap.nextNet n).nets w.heap.nextNet =
          some n := fun n => Function.update_self _ _ _
      rw [hself]
      dsimp only
      rw [hworld]
      have hcontext := quiet_setNet hopen.1.ok hopen.1.inside hp
        (m := { openedNet w.heap 0 .netEstablished with userContext := some default }) rfl
        ⟨rfl, rfl, rfl, rfl⟩
      have htime := quiet_setNet hcontext.1.ok hcontext.1.inside (hself _)
        (m := { openedNet w.heap 0 .netEstablished with
          userContext := some default, lastActiveTimestamp := w.now }) rfl ⟨rfl, rfl, rfl, rfl⟩
      have hset := hopen.trans h (hcontext.trans hopen.1.ok htime)
      exact hset.trans h ((hconnect _ _).quiet hset.1.ok hset.1.inside)

/-! ## The walk -/

theorem onward_setCursor {w : World σ γ} (h : Ok w) {cursor : Option Int}
    (hin : (w.setCursor cursor).frontendHandlerMgr.PointsInside) : Onward w (w.setCursor cursor) :=
  .of_similar h ⟨fun side => by cases side <;> rfl, le_refl _, le_refl _, id,
    fun hp => ⟨_, hp, rfl⟩, id, fun hb => ⟨_, hb, rfl⟩⟩ hin

theorem onward_walkEntry {act : EasyNet γ → Bool × EasyNet γ}
    (hact : ∀ n, (act n).2.hevent = n.hevent) {w : World σ γ} (h : Ok w)
    (hin : w.frontendHandlerMgr.PointsInside) (fd : Int) : Onward w (w.walkEntry act fd) := by
  rw [walkEntry]
  cases hp : w.frontendHandlerMgr.handlerPool.lookup fd with
  | none => exact onward_setCursor h (NetHandlerMgr.PointsInside.ofEnd rfl)
  | some p =>
    dsimp only
    cases hn : w.heap.nets p with
    | none => exact onward_setCursor h (NetHandlerMgr.PointsInside.next fd)
    | some n =>
      dsimp only
      have hset : ∀ m : EasyNet γ, m.hevent = n.hevent →
          Onward w { w with heap := w.heap.setNet p m } :=
        fun m hev => .of_similar h (similar_setNet w hn hev) hin
      have hset := hset (act n).2 (hact n)
      generalize act n = r at hset ⊢
      obtain ⟨kick, m⟩ := r
      cases kick with
      | true => exact hset.trans h (onward_eraseAt hset.ok hset.inside hp)
      | false =>
        exact hset.trans h (onward_setCursor hset.ok (NetHandlerMgr.PointsInside.next fd))

theorem onward_walkLoop {act : EasyNet γ → Bool × EasyNet γ}
    (hact : ∀ n, (act n).2.hevent = n.hevent) (k : Nat) {w : World σ γ} (h : Ok w)
    (hin : w.frontendHandlerMgr.PointsInside) : Onward w (w.walkLoop act k) := by
  induction k generalizing w with
  | zero => exact .refl h hin
  | succ k ih =>
    rw [walkLoop]
    split
    · exact .refl h hin
    · next fd _ =>
      have hentry := onward_walkEntry hact h hin fd
      exact hentry.trans h (ih hentry.ok hentry.inside)

theorem onward_walkThrough {act : EasyNet γ → Bool × EasyNet γ}
    (hact : ∀ n, (act n).2.hevent = n.hevent) {w : World σ γ} (h : Ok w)
    (hin : w.frontendHandlerMgr.PointsInside) : Onward w (w.walkThrough act) := by
  have hloop := onward_walkLoop hact kSingleRoundLoopNum h hin
  rw [walkThrough]
  generalize w.walkLoop act kSingleRoundLoopNum = w' at hloop ⊢
  split
  · exact hloop.trans h (onward_setCursor hloop.ok (NetHandlerMgr.PointsInside.begin _))
  · exact hloop

end World

end Rapidapp
