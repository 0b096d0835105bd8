import Pollbook.Lib.Reference
import Pollbook.Warnings.Server

/-!
# Removing the warning that was looked at

A session selects a warning by its index in the last snapshot it was sent, and
the server removes what is at that index now. The two are the same warning as
long as nobody cleared the cache or removed a warning at that index or before it
in between (`removals_follow_selections`); new warnings do no harm. A response is
at most 64 KiB long, or the server's behaviour is undefined.
-/

namespace Pollbook

namespace WarningQueryServer

/-! ## One step -/

/-- The cached warnings; none if the cache is not enabled. -/
def cached (sink : Option WarningCacheSink) : List Warning := LogUtils.getWarningCacheSnapshot sink

/-- How many warnings have been entered. -/
def entered (sink : Option WarningCacheSink) : Nat := (sink.map (·.logged)).getD 0

/-- A reply that says nothing of a snapshot and changes nothing. -/
def Reply.quiet : Reply → Bool
  | invalidIndex | invalidIndexFormat | unknownCommand => true
  | _ => false

/-- What a step does to the cached warnings, with how many have been entered. -/
inductive Moves (ws : List Warning) (n : Nat) :
    List Warning → Nat → List Response → Prop
  | ignored : Moves ws n ws n []
  | entered (text : Bytes) : Moves ws n (ws ++ [⟨n, text⟩]) (n + 1) []
  | looked (session : Nat) (body : Bytes) : Moves ws n ws n [⟨session, .warnings ws, body⟩]
  | cleared (session : Nat) (body : Bytes) : Moves ws n [] n [⟨session, .cleared, body⟩]
  | removed {index : UInt64} (session : Nat) (body : Bytes) (hindex : index.toNat < ws.length) :
      Moves ws n (ws.eraseIdx index.toNat) n [⟨session, .removed index, body⟩]
  | refused {reply : Reply} (session : Nat) (body : Bytes) (hquiet : reply.quiet = true) :
      Moves ws n ws n [⟨session, reply, body⟩]

variable {codec : Codec} {sink sink' : Option WarningCacheSink} {session : Nat}
  {tr : List (Event × List Response)} {out : List Response} {e : Event} {ws ws' : List Warning}
  {n n' : Nat} {index : UInt64} {w : Warning}

theorem removeWarningAtIndex_of_le (h : (cached sink).length ≤ index.toNat) :
    LogUtils.removeWarningAtIndex sink index = (false, sink) := by
  cases sink with
  | none => rfl
  | some s =>
    have hle : s.warnings.length ≤ index.toNat := h
    simp only [LogUtils.removeWarningAtIndex, WarningCacheSink.removeWarningAt, if_pos hle]

theorem removeWarningAtIndex_of_lt (h : index.toNat < (cached sink).length) :
    ∃ sink', LogUtils.removeWarningAtIndex sink index = (true, sink') ∧
      cached sink' = (cached sink).eraseIdx index.toNat ∧ entered sink' = entered sink := by
  cases sink with
  | none => cases h
  | some s =>
    have hlt : ¬ s.warnings.length ≤ index.toNat := Nat.not_le.mpr h
    simp only [LogUtils.removeWarningAtIndex, WarningCacheSink.removeWarningAt, if_neg hlt]
    exact ⟨_, rfl, rfl, rfl⟩

/-- A command to remove what is at an index. -/
theorem command_removeWarning {line : Bytes} (h : stoul line = .ok index) :
    command sink (removeWarning ++ line) =
      if (cached sink).length ≤ index.toNat then (sink, .invalidIndex)
      else ((LogUtils.removeWarningAtIndex sink index).2, .removed index) := by
  have hget : removeWarning ++ line ≠ bytes "get_warnings" := by
    intro heq
    have hhead := congrArg List.head? heq
    rw [List.head?_append_of_ne_nil _ (by decide +kernel)] at hhead
    exact absurd hhead (by decide +kernel)
  have hclear : removeWarning ++ line ≠ bytes "clear_warnings" := by
    intro heq
    have hhead := congrArg List.head? heq
    rw [List.head?_append_of_ne_nil _ (by decide +kernel)] at hhead
    exact absurd hhead (by decide +kernel)
  have hprefix : removeWarning.isPrefixOf (removeWarning ++ line) = true :=
    List.isPrefixOf_iff_prefix.mpr (List.prefix_append _ _)
  unfold command
  rw [if_neg hget, if_neg hclear, if_pos hprefix, List.drop_left, h]
  dsimp only
  by_cases hle : (cached sink).length ≤ index.toNat
  · rw [if_pos hle, removeWarningAtIndex_of_le hle]
    rfl
  · obtain ⟨sink', hremoved, -, -⟩ := removeWarningAtIndex_of_lt (Nat.lt_of_not_le hle)
    rw [if_neg hle, hremoved]
    rfl

theorem command_moves (line : Bytes) (session : Nat) (body : Bytes) :
    Moves (cached sink) (entered sink) (cached (command sink line).1)
      (entered (command sink line).1) [⟨session, (command sink line).2, body⟩] := by
  unfold command
  split
  · exact .looked session body
  split
  · cases sink with
    | none => exact .cleared session body
    | some s => exact .cleared session body
  split
  · split
    · next index hindex =>
      dsimp only
      by_cases hle : (cached sink).length ≤ index.toNat
      · rw [removeWarningAtIndex_of_le hle]
        exact .refused session body rfl
      · obtain ⟨sink', hremoved, hcached, hentered⟩ :=
          removeWarningAtIndex_of_lt (Nat.lt_of_not_le hle)
        rw [hremoved, hcached, hentered]
        exact .removed session body (Nat.lt_of_not_le hle)
    · exact .refused session body rfl
  · exact .refused session body rfl

theorem next_moves (h : next codec sink e = some (sink', out)) :
    Moves (cached sink) (entered sink) (cached sink') (entered sink') out := by
  cases e with
  | logged level formatted =>
    obtain ⟨rfl, rfl⟩ := Prod.mk.inj (Option.some.inj h)
    cases sink with
    | none => exact .ignored
    | some s =>
      by_cases hlevel : level = .warn
      · subst hlevel
        exact .entered formatted
      · simp only [Option.map_some, WarningCacheSink.sinkIt, if_neg hlevel]
        exact .ignored
  | command session line =>
    unfold next at h
    dsimp only at h
    split at h
    · next body _ =>
      split at h
      · obtain ⟨rfl, rfl⟩ := Prod.mk.inj (Option.some.inj h)
        exact command_moves line session _
      · cases h
    · cases h

/-! ## What a session has seen -/

/-- The last snapshot a session was sent, and the steps since then. -/
structure View where
  shown : List Warning
  since : List (Event × List Response)

/-- The snapshot a step sends to the session. -/
def snapshot (session : Nat) (x : Event × List Response) : Option (List Warning) :=
  x.2.findSome? fun r =>
    match r.reply with
    | .warnings ws => if r.session = session then some ws else none
    | _ => none

/-- The session's view after one more step. -/
def View.step (session : Nat) (v : Option View) (x : Event × List Response) : Option View :=
  match snapshot session x with
  | some ws => some ⟨ws, []⟩
  | none => v.map fun v => { v with since := v.since ++ [x] }

/-- The session's view at the end of a trace; none if it has never looked. -/
def view (session : Nat) (tr : List (Event × List Response)) : Option View :=
  tr.foldl (View.step session) none

theorem view_snoc (session : Nat) (tr : List (Event × List Response))
    (x : Event × List Response) :
    view session (tr ++ [x]) = View.step session (view session tr) x := by
  rw [view, List.foldl_append]
  rfl

/-- The reply moves or removes the warning at an index, if there is one. -/
def Reply.disturbs (index : UInt64) : Reply → Bool
  | cleared => true
  | removed i => i.toNat ≤ index.toNat
  | _ => false

theorem Reply.disturbs_of_quiet {reply : Reply} (h : reply.quiet = true) (index : UInt64) :
    reply.disturbs index = false := by
  cases reply with
  | invalidIndex | invalidIndexFormat | unknownCommand => rfl
  | warnings | cleared | removed => cases h

/-- Nothing has moved or removed the warning at an index since the session looked. -/
def View.Undisturbed (v : View) (index : UInt64) : Prop :=
  ∀ x ∈ v.since, ∀ r ∈ x.2, r.reply.disturbs index = false

/-- The warning the session selects with an index. -/
def selected (session : Nat) (index : UInt64) (tr : List (Event × List Response)) :
    Option Warning :=
  (view session tr).bind fun v => v.shown[index.toNat]?

/-! ## Where the selected warning is -/

/-- Every cached warning has its own number. -/
structure Distinct (ws : List Warning) (n : Nat) : Prop where
  nodup : ws.Nodup
  old : ∀ w ∈ ws, w.number < n

/-- The warning that was at an index still is there, or it has moved to the
front or was removed. -/
def Tracks (v : View) (ws : List Warning) (n : Nat) : Prop :=
  ∀ (index : UInt64) w, v.shown[index.toNat]? = some w → w.number < n ∧
    (v.Undisturbed index ∧ ws[index.toNat]? = some w ∨
      ¬ v.Undisturbed index ∧ (w ∉ ws ∨ ∃ p < index.toNat, ws[p]? = some w))

theorem Distinct.moves (h : Distinct ws n) (hmoves : Moves ws n ws' n' out) :
    Distinct ws' n' := by
  cases hmoves with
  | ignored | looked | refused => exact h
  | cleared => exact ⟨List.nodup_nil, fun w hw => absurd hw List.not_mem_nil⟩
  | @removed index _ _ _ =>
    have hsub : (ws.eraseIdx index.toNat).Sublist ws := List.eraseIdx_sublist ws index.toNat
    exact ⟨h.nodup.sublist hsub, fun w hw => h.old w (hsub.subset hw)⟩
  | entered text =>
    refine ⟨?_, fun w hw => ?_⟩
    · rw [← List.concat_eq_append]
      refine h.nodup.concat fun hmem => ?_
      exact Nat.lt_irrefl n (h.old _ hmem)
    · rcases List.mem_append.mp hw with hw | hw
      · exact Nat.lt_succ_of_lt (h.old w hw)
      · rw [List.mem_singleton.mp hw]
        exact Nat.lt_succ_self n

/-- The view a session has after one more step that shows it nothing. -/
def View.after (v : View) (x : Event × List Response) : View := { v with since := v.since ++ [x] }

theorem View.undisturbed_after {v : View} {x : Event × List Response} :
    (v.after x).Undisturbed index ↔
      v.Undisturbed index ∧ ∀ r ∈ x.2, r.reply.disturbs index = false := by
  unfold View.Undisturbed View.after
  constructor
  · intro h
    exact ⟨fun y hy => h y (List.mem_append_left _ hy),
      h x (List.mem_append_right _ (List.mem_singleton_self x))⟩
  · rintro ⟨hpast, hlast⟩ y hy
    rcases List.mem_append.mp hy with hy | hy
    · exact hpast y hy
    · rw [List.mem_singleton.mp hy]
      exact hlast

/-- A step that leaves the warnings up to some index alone. -/
theorem Tracks.kept {v : View} (h : Tracks v ws n) (hn : n ≤ n')
    (hquiet : ∀ index, ∀ r ∈ out, r.reply.disturbs index = false)
    (hkept : ∀ (p : Nat) w, ws[p]? = some w → ws'[p]? = some w)
    (hold : ∀ w ∈ ws', w ∈ ws ∨ n ≤ w.number) : Tracks (v.after (e, out)) ws' n' := by
  intro index w hw
  obtain ⟨hnumber, hpos⟩ := h index w hw
  refine ⟨Nat.lt_of_lt_of_le hnumber hn, ?_⟩
  rw [View.undisturbed_after]
  rcases hpos with ⟨hundisturbed, hpos⟩ | ⟨hdisturbed, hgone | ⟨p, hp, hpos⟩⟩
  · exact .inl ⟨⟨hundisturbed, hquiet index⟩, hkept _ _ hpos⟩
  · refine .inr ⟨fun h => hdisturbed h.1, .inl fun hmem => ?_⟩
    rcases hold w hmem with hmem | hle
    · exact hgone hmem
    · exact Nat.lt_irrefl _ (Nat.lt_of_lt_of_le hnumber hle)
  · exact .inr ⟨fun h => hdisturbed h.1, .inr ⟨p, hp, hkept _ _ hpos⟩⟩

/-- A removal moves the warnings behind it, and takes one away. -/
theorem Tracks.removed {v : View} (h : Tracks v ws n) (hd : Distinct ws n) (index : UInt64)
    (body : Bytes) :
    Tracks (v.after (e, [⟨session, .removed index, body⟩])) (ws.eraseIdx index.toNat) n := by
  intro i w hw
  obtain ⟨hnumber, hpos⟩ := h i w hw
  refine ⟨hnumber, ?_⟩
  rw [View.undisturbed_after]
  have hdisturbs : (∀ r ∈ [(⟨session, .removed index, body⟩ : Response)],
      r.reply.disturbs i = false) ↔ i.toNat < index.toNat := by
    simp [Reply.disturbs]
  rw [hdisturbs]
  -- where a warning at `p` is afterwards
  have hmoved : ∀ p, ws[p]? = some w → w ∉ ws.eraseIdx index.toNat ∨
      ∃ q, (ws.eraseIdx index.toNat)[q]? = some w ∧ (q = p ∧ p < index.toNat ∨ q < p) := by
    intro p hp
    rcases Nat.lt_trichotomy p index.toNat with hlt | heq | hgt
    · exact .inr ⟨p, by rw [List.getElem?_eraseIdx_of_lt hlt, hp], .inl ⟨rfl, hlt⟩⟩
    · left
      intro hmem
      obtain ⟨q, hq, hne, heq'⟩ := List.mem_eraseIdx_iff_getElem.mp hmem
      obtain ⟨hlt, hw'⟩ := List.getElem?_eq_some_iff.mp hp
      exact hne ((hd.nodup.getElem_inj_iff.mp (heq'.trans hw'.symm)).trans heq)
    · refine .inr ⟨p - 1, ?_, .inr (by omega)⟩
      rw [List.getElem?_eraseIdx_of_ge (by omega), Nat.sub_add_cancel (by omega), hp]
  rcases hpos with ⟨hundisturbed, hpos⟩ | ⟨hdisturbed, hgone | ⟨p, hp, hpos⟩⟩
  · by_cases hlt : i.toNat < index.toNat
    · exact .inl ⟨⟨hundisturbed, hlt⟩, by rw [List.getElem?_eraseIdx_of_lt hlt, hpos]⟩
    · right
      refine ⟨fun h => hlt h.2, (hmoved _ hpos).imp_right ?_⟩
      rintro ⟨q, hq, ⟨-, hlt'⟩ | hqp⟩
      · exact absurd hlt' hlt
      · exact ⟨q, hqp, hq⟩
  · exact .inr ⟨fun h => hdisturbed h.1,
      .inl fun hmem => hgone ((List.eraseIdx_sublist ws index.toNat).subset hmem)⟩
  · right
    refine ⟨fun h => hdisturbed h.1, (hmoved _ hpos).imp_right ?_⟩
    rintro ⟨q, hq, ⟨rfl, -⟩ | hqp⟩
    · exact ⟨q, hp, hq⟩
    · exact ⟨q, by omega, hq⟩

theorem Tracks.moves {v : View} (h : Tracks v ws n) (hd : Distinct ws n)
    (hmoves : Moves ws n ws' n' out) : Tracks (v.after (e, out)) ws' n' := by
  cases hmoves with
  | ignored => exact h.kept (Nat.le_refl n) (by simp) (fun _ _ hp => hp) fun w hw => .inl hw
  | looked session body =>
    refine h.kept (Nat.le_refl n) ?_ (fun _ _ hp => hp) fun w hw => .inl hw
    simp [Reply.disturbs]
  | refused session body hquiet =>
    refine h.kept (Nat.le_refl n) ?_ (fun _ _ hp => hp) fun w hw => .inl hw
    intro index r hr
    rw [List.mem_singleton.mp hr]
    exact Reply.disturbs_of_quiet hquiet index
  | entered text =>
    refine h.kept (Nat.le_succ n) (by simp) (fun p w hp => ?_) fun w hw => ?_
    · obtain ⟨hlt, -⟩ := List.getElem?_eq_some_iff.mp hp
      rw [List.getElem?_append_left hlt, hp]
    · rcases List.mem_append.mp hw with hw | hw
      · exact .inl hw
      · rw [List.mem_singleton.mp hw]
        exact .inr (Nat.le_refl n)
  | removed session body hindex => exact h.removed hd _ body
  | cleared session body =>
    intro index w hw
    refine ⟨(h index w hw).1, .inr ⟨fun hundisturbed => ?_, .inl List.not_mem_nil⟩⟩
    have hcleared := (View.undisturbed_after.mp hundisturbed).2 _ (List.mem_singleton_self _)
    cases hcleared

/-! ## Runs -/

/-- The cache at the start of the program. -/
def initial (enableWarningCache : Bool) : Option WarningCacheSink :=
  if enableWarningCache then some ⟨[], 0⟩ else none

/-- What a step shows to a session is what is cached. -/
theorem Moves.snapshot (h : Moves ws n ws' n' out) {shown : List Warning}
    (hshown : snapshot session (e, out) = some shown) : shown = ws ∧ ws' = ws ∧ n' = n := by
  unfold WarningQueryServer.snapshot at hshown
  cases h with
  | looked session' body =>
    rw [List.findSome?_singleton] at hshown
    dsimp only at hshown
    split at hshown
    · exact ⟨(Option.some.inj hshown).symm, rfl, rfl⟩
    · cases hshown
  | @refused reply session' body hquiet =>
    rw [List.findSome?_singleton] at hshown
    cases reply with
    | invalidIndex | invalidIndexFormat | unknownCommand => cases hshown
    | warnings | cleared | removed => cases hquiet
  | ignored | entered | cleared | removed => cases hshown

/-- Every session's selections are tracked. -/
theorem tracks_of_run {enabled : Bool} (hrun : Run (next codec) (initial enabled) tr sink) :
    Distinct (cached sink) (entered sink) ∧
      ∀ session v, view session tr = some v → Tracks v (cached sink) (entered sink) := by
  apply hrun.history (I := fun tr sink => Distinct (cached sink) (entered sink) ∧
    ∀ session v, view session tr = some v → Tracks v (cached sink) (entered sink))
  · refine ⟨?_, fun session v hv => by cases hv⟩
    cases enabled with
    | false => exact ⟨List.nodup_nil, fun w hw => absurd hw List.not_mem_nil⟩
    | true => exact ⟨List.nodup_nil, fun w hw => absurd hw List.not_mem_nil⟩
  · intro tr sink e sink' out _ hind hnext
    obtain ⟨hd, htracks⟩ := hind
    have hmoves := next_moves hnext
    refine ⟨hd.moves hmoves, fun session v hv => ?_⟩
    rw [view_snoc, View.step] at hv
    split at hv
    · next shown hshown =>
      obtain ⟨rfl, hcached, hentered⟩ := hmoves.snapshot hshown
      obtain rfl := Option.some.inj hv
      rw [hcached, hentered]
      intro index w hw
      refine ⟨hd.old w (List.mem_of_getElem? hw), .inl ⟨fun x hx => ?_, hw⟩⟩
      exact absurd hx List.not_mem_nil
    · obtain ⟨v₀, hv₀, rfl⟩ := Option.map_eq_some_iff.mp hv
      exact (htracks session v₀ hv₀).moves hd hmoves

/-! ## Removing -/

/-- The command removed the selected warning and no other, or it removed
nothing and said so. -/
def RemovesSelected (selected : Option Warning) (index : UInt64)
    (sink sink' : Option WarningCacheSink) (reply : Reply) : Prop :=
  (∃ w ∈ cached sink, selected = some w ∧ cached sink' = (cached sink).erase w ∧
    reply = .removed index) ∨
  sink' = sink ∧ reply = .invalidIndex

/-- The response to a command to remove what is at an index. -/
theorem next_removeWarning {line : Bytes}
    (h : next codec sink (.command session (removeWarning ++ line)) = some (sink', out)) :
    ∃ body, out = [⟨session, (command sink (removeWarning ++ line)).2, body⟩] ∧
      sink' = (command sink (removeWarning ++ line)).1 := by
  unfold next at h
  dsimp only at h
  split at h
  · next body _ =>
    split at h
    · obtain ⟨rfl, rfl⟩ := Prod.mk.inj (Option.some.inj h)
      exact ⟨_, rfl, rfl⟩
    · cases h
  · cases h

/-- **Removing warnings.** In every run, whatever the sessions do, a command to
remove what is at an index removes the warning the session has selected, or
nothing, just when there is nothing at that index now, or the session has looked
and since then the cache has not been cleared and no removal at that index or
before it took place. In any case it removes what is at that index now. -/
theorem removals_follow_selections {enabled : Bool}
    (hrun : Run (next codec) (initial enabled) tr sink) {line : Bytes}
    (hindex : stoul line = .ok index)
    (hnext : next codec sink (.command session (removeWarning ++ line)) = some (sink', out)) :
    ((∃ reply body, out = [⟨session, reply, body⟩] ∧
        RemovesSelected (selected session index tr) index sink sink' reply) ↔
      (cached sink).length ≤ index.toNat ∨
        ∃ v, view session tr = some v ∧ index.toNat < v.shown.length ∧ v.Undisturbed index) ∧
      cached sink' = (cached sink).eraseIdx index.toNat := by
  obtain ⟨hd, htracks⟩ := tracks_of_run hrun
  obtain ⟨body, rfl, rfl⟩ := next_removeWarning hnext
  rw [command_removeWarning hindex]
  by_cases hle : (cached sink).length ≤ index.toNat
  · rw [if_pos hle]
    exact ⟨⟨fun _ => .inl hle, fun _ => ⟨_, _, rfl, .inr ⟨rfl, rfl⟩⟩⟩,
      (List.eraseIdx_of_length_le hle).symm⟩
  · rw [if_neg hle]
    have hlt := Nat.lt_of_not_le hle
    obtain ⟨sink', hremoved, hcached, -⟩ := removeWarningAtIndex_of_lt hlt
    rw [hremoved]
    have hat : (cached sink)[index.toNat]? = some (cached sink)[index.toNat] :=
      List.getElem?_eq_getElem hlt
    have herase : (cached sink).erase (cached sink)[index.toNat] =
        (cached sink).eraseIdx index.toNat := hd.nodup.erase_getElem index.toNat hlt
    refine ⟨?_, hcached⟩
    constructor
    · rintro ⟨reply, body', hout, ⟨w, hw, hselected, hcached', -⟩ | ⟨-, rfl⟩⟩
      · right
        have hsame : w = (cached sink)[index.toNat] := by
          by_contra hne
          have hmem : (cached sink)[index.toNat] ∈ (cached sink).erase w :=
            (List.mem_erase_of_ne (Ne.symm hne)).mpr (List.getElem_mem hlt)
          rw [← hcached', hcached, ← herase] at hmem
          exact hd.nodup.not_mem_erase hmem
        obtain ⟨v, hv, hshown⟩ := Option.bind_eq_some_iff.mp hselected
        refine ⟨v, hv, (List.getElem?_eq_some_iff.mp hshown).1, ?_⟩
        rcases (htracks session v hv index w hshown).2 with
          ⟨hundisturbed, -⟩ | ⟨-, hgone | ⟨p, hp, hmoved⟩⟩
        · exact hundisturbed
        · exact absurd hw hgone
        · obtain ⟨hlt', hmoved⟩ := List.getElem?_eq_some_iff.mp hmoved
          have heq := hd.nodup.getElem_inj_iff.mp (hmoved.trans hsame)
          omega
      · cases hout
    · rintro (hle' | ⟨v, hv, hshown, hundisturbed⟩)
      · exact absurd hle' hle
      · have hw := List.getElem?_eq_getElem hshown
        rcases (htracks session v hv index _ hw).2 with ⟨-, hpos⟩ | ⟨hdisturbed, -⟩
        · rw [hat, Option.some.injEq] at hpos
          refine ⟨_, _, rfl, .inl ⟨v.shown[index.toNat], ?_, ?_, ?_, rfl⟩⟩
          · rw [← hpos]
            exact List.getElem_mem hlt
          · rw [selected, hv]
            exact hw
          · rw [← hpos, herase]
            exact hcached
        · exact absurd hundisturbed hdisturbed

section Rehearsal

/-- Two warnings are logged, and both sessions look at them. -/
def twoLooks : List Event :=
  [.logged .warn (bytes "first"), .logged .info (bytes "note"), .logged .warn (bytes "second"),
    .command 1 (bytes "get_warnings"), .command 2 (bytes "get_warnings")]

/-- The command to remove the first warning. -/
def removeFirst : Bytes := removeWarning ++ bytes "0"

/-- Both sessions remove the first warning they see; the second removal takes
away a warning that nobody has selected. -/
theorem second_removal_hits_another :
    ¬ ∀ (codec : Codec) (enabled : Bool) (tr : List (Event × List Response))
      (sink sink' : Option WarningCacheSink) (out : List Response) (session : Nat)
      (index : UInt64) (line : Bytes) (w : Warning), Run (next codec) (initial enabled) tr sink →
      stoul line = .ok index → selected session index tr = some w →
      next codec sink (.command session (removeWarning ++ line)) = some (sink', out) →
      ∃ reply body, out = [⟨session, reply, body⟩] ∧
        RemovesSelected (some w) index sink sink' reply := by
  intro hall
  have hexec : (exec (next Codec.reference) (initial true)
      (twoLooks ++ [.command 2 removeFirst])).any (fun r =>
        decide (selected 1 0 r.1 = some ⟨0, bytes "first"⟩) &&
        decide (cached r.2 = [⟨1, bytes "second"⟩]) &&
        (next Codec.reference r.2 (.command 1 removeFirst)).any fun r' =>
          decide (r'.2.map (·.reply) = [.removed 0])) = true := by
    decide +kernel
  obtain ⟨tr, sink, hrun, hs⟩ := Run.exists_of_exec hexec
  simp only [Bool.and_eq_true, decide_eq_true_eq, Option.any_eq_true] at hs
  obtain ⟨⟨hselected, hcached⟩, ⟨sink', out⟩, hnext, hreply⟩ := hs
  obtain ⟨reply, body, rfl, ⟨w, hw, hsame, -⟩ | ⟨-, rfl⟩⟩ :=
    hall Codec.reference true tr sink sink' out 1 0 (bytes "0") ⟨0, bytes "first"⟩ hrun
      (by decide +kernel) hselected hnext
  · obtain rfl := Option.some.inj hsame
    rw [hcached, List.mem_singleton] at hw
    exact absurd (congrArg Warning.number hw) (by decide)
  · cases hreply

/-- A warning is logged after the look, and the selected one is removed. -/
theorem removals_follow_selections_rehearsal :
    ∃ tr sink sink' out reply body, Run (next Codec.reference) (initial true) tr sink ∧
      next Codec.reference sink (.command 1 removeFirst) = some (sink', out) ∧
      out = [⟨1, reply, body⟩] ∧
      RemovesSelected (selected 1 0 tr) 0 sink sink' reply := by
  have hexec : (exec (next Codec.reference) (initial true)
      (twoLooks ++ [.logged .warn (bytes "third")])).any (fun r =>
        ((view 1 r.1).any fun v => decide (0 < v.shown.length) &&
          v.since.all fun x => x.2.all fun r => !r.reply.disturbs 0) &&
        (next Codec.reference r.2 (.command 1 removeFirst)).isSome) = true := by
    decide +kernel
  obtain ⟨tr, sink, hrun, hs⟩ := Run.exists_of_exec hexec
  simp only [Bool.and_eq_true, decide_eq_true_eq, Option.any_eq_true, List.all_eq_true,
    Bool.not_eq_true'] at hs
  obtain ⟨⟨v, hv, hshown, hundisturbed⟩, hnext⟩ := hs
  obtain ⟨⟨sink', out⟩, hnext⟩ := Option.isSome_iff_exists.mp hnext
  have hindex : stoul (bytes "0") = .ok 0 := by decide +kernel
  obtain ⟨reply, body, hout, hremoves⟩ :=
    (removals_follow_selections hrun hindex hnext).1.mpr (.inr ⟨v, hv, hshown, hundisturbed⟩)
  exact ⟨tr, sink, sink', out, reply, body, hrun, hnext, hout, hremoves⟩

end Rehearsal

end WarningQueryServer

end Pollbook
