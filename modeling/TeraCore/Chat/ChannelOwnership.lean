import TeraCore.Commons.Run
import TeraCore.Chat.Channel

/-!
# Chat channels: the owner

The owner of a channel is kept twice: as a guid, and as a flag of an entry.  Where a request gives
the channel another owner, that owner has an entry: someone else of the list, or the moderator who
has kicked or banned the one before.

An owner who kicks or bans the owner has no entry any more, and gets a new one.

## Main results

* `Channel.Kept.answer`: what a request keeps
* `owned_of_run`: the channel is owned, its members have joined and not left, and who is kicked or
  banned is not in the list
-/

namespace TeraCore.Chat

open Commons OrderedMap

namespace PlayerInfo

variable {info : PlayerInfo} {state : Bool}

theorem isOwner_setOwner : (info.SetOwner state).IsOwner = state := by
  have hset : ∀ flags : BitVec 8, ((flags ||| MEMBER_FLAG_OWNER) &&& MEMBER_FLAG_OWNER != 0) =
      true := by decide
  have hclear : ∀ flags : BitVec 8,
      ((flags &&& ~~~MEMBER_FLAG_OWNER) &&& MEMBER_FLAG_OWNER != 0) = false := by decide
  cases state with
  | true => exact hset info.flags
  | false => exact hclear info.flags

theorem isOwner_withFlag {flag : BitVec 8} (hflag : flag &&& MEMBER_FLAG_OWNER = 0) :
    (info.withFlag flag state).IsOwner = info.IsOwner := by
  have hset : (info.flags ||| flag) &&& MEMBER_FLAG_OWNER = info.flags &&& MEMBER_FLAG_OWNER := by
    rw [BitVec.and_or_distrib_right, hflag]
    simp
  have hclear : info.flags &&& ~~~flag &&& MEMBER_FLAG_OWNER =
      info.flags &&& MEMBER_FLAG_OWNER := by
    ext i hi
    have hbit := congrArg (·.getLsbD i) hflag
    grind
  cases state with
  | true => exact congrArg (· != 0) hset
  | false => exact congrArg (· != 0) hclear

@[simp] theorem isOwner_setModerator : (info.SetModerator state).IsOwner = info.IsOwner :=
  isOwner_withFlag (by decide)

@[simp] theorem isOwner_setMuted : (info.SetMuted state).IsOwner = info.IsOwner :=
  isOwner_withFlag (by decide)

end PlayerInfo

/-! ## Entries -/

namespace Channel

variable {c : Channel} {P Q : ℕ → PlayerInfo → Prop} {p : ℕ} {f : PlayerInfo → PlayerInfo}

/-- What every entry of the list meets. -/
def Entries (P : ℕ → PlayerInfo → Prop) (c : Channel) : Prop :=
  ∀ k info, c.players.find? k = some info → P k info

theorem Entries.modify (h : c.Entries P) (hp : c.IsOn p = true)
    (hself : ∀ info, P p info → Q p (f info)) (hother : ∀ k info, k ≠ p → P k info → Q k info) :
    (c.modify p f).Entries Q := by
  obtain ⟨info, hinfo⟩ := contains_iff.mp hp
  intro k info' hk
  change (c.players.set p (f (c.players.get p))).find? k = some info' at hk
  by_cases hkp : k = p
  · subst hkp
    rw [find?_set_self, get_of_find? hinfo] at hk
    cases hk
    exact hself info (h k info hinfo)
  · rw [find?_set_of_ne c.players _ hkp] at hk
    exact hother k info' hkp (h k info' hk)

theorem isOn_modify (hp : c.IsOn p = true) (k : ℕ) : (c.modify p f).IsOn k = c.IsOn k := by
  rw [Bool.eq_iff_iff]
  unfold IsOn
  rw [contains_iff_mem_keys, contains_iff_mem_keys]
  have hkeys : (c.modify p f).players.keys = c.players.keys :=
    keys_set_of_mem _ (contains_iff_mem_keys.mp hp)
  rw [hkeys]

/-! ## The owner -/

/-- An entry is that of its key, and has the flag of the owner only if it is the owner's. -/
def Flagged (c : Channel) : Prop :=
  c.Entries fun k info => info.player = k ∧
    (info.IsOwner = true → c.m_ownerGUID ≠ 0 ∧ k = c.m_ownerGUID)

/-- **The channel is owned**: the owner, if there is one, is a member, and has the flag, and no
one else has it. -/
structure Owned (c : Channel) : Prop where
  member : c.m_ownerGUID ≠ 0 → c.IsOn c.m_ownerGUID = true
  flag : c.Entries fun k info => info.IsOwner = true ↔ c.m_ownerGUID ≠ 0 ∧ k = c.m_ownerGUID

/-- What every request keeps, of a custom channel with ownership. -/
structure Kept (c : Channel) : Prop extends Owned c where
  named : c.Entries fun k info => info.player = k
  ownership : c.m_ownership = true
  custom : c.IsConstant = false

theorem Kept.flagged (h : c.Kept) : c.Flagged :=
  fun k info hk => ⟨h.named k info hk, (h.flag k info hk).mp⟩

/-- **A member becomes the owner.** -/
theorem Flagged.setOwner (h : c.Flagged) (hownership : c.m_ownership = true)
    (hcustom : c.IsConstant = false) (hp : c.IsOn p = true) :
    (c.setOwner p).Kept ∧ ∀ k, (c.setOwner p).IsOn k = c.IsOn k := by
  -- the flag of the owner before is removed
  obtain ⟨d, hd, hentries, hon, hdownership, hdcustom⟩ : ∃ d : Channel,
      (if c.m_ownerGUID ≠ 0 then
        if c.IsOn c.m_ownerGUID then c.modify c.m_ownerGUID (·.SetOwner false) else c
      else c) = d ∧
      (d.Entries fun k info => info.player = k ∧ info.IsOwner = false) ∧
      (∀ k, d.IsOn k = c.IsOn k) ∧ d.m_ownership = true ∧ d.IsConstant = false := by
    split_ifs with howner hon
    · refine ⟨_, rfl, ?_, isOn_modify hon, hownership, hcustom⟩
      refine Entries.modify h hon (fun info hinfo => ⟨hinfo.1, PlayerInfo.isOwner_setOwner⟩) ?_
      intro k info hk hinfo
      exact ⟨hinfo.1, Bool.eq_false_iff.mpr fun hflag => hk (hinfo.2 hflag).2⟩
    · refine ⟨c, rfl, fun k info hk => ⟨(h k info hk).1, ?_⟩, fun _ => rfl, hownership, hcustom⟩
      refine Bool.eq_false_iff.mpr fun hflag => hon ?_
      rw [← ((h k info hk).2 hflag).2]
      exact contains_iff.mpr ⟨info, hk⟩
    · refine ⟨c, rfl, fun k info hk => ⟨(h k info hk).1, ?_⟩, fun _ => rfl, hownership, hcustom⟩
      exact Bool.eq_false_iff.mpr fun hflag => howner ((h k info hk).2 hflag).1
  rw [Channel.setOwner, hd]
  by_cases hzero : p = 0
  · rw [if_neg (not_not.mpr hzero)]
    refine ⟨⟨⟨fun hne => absurd hzero hne, fun k info hk => ?_⟩, fun k info hk => ?_, hdownership,
      hdcustom⟩, hon⟩
    · simp [(hentries k info hk).2, hzero]
    · exact (hentries k info hk).1
  · rw [if_pos hzero]
    have hpd : Channel.IsOn { d with m_ownerGUID := p } p = true := (hon p).trans hp
    have hmoderator : (Channel.modify { d with m_ownerGUID := p } p (·.SetModerator true)).Entries
        fun k info => info.player = k ∧ info.IsOwner = false :=
      Entries.modify hentries hpd
        (fun info hinfo => ⟨hinfo.1, PlayerInfo.isOwner_setModerator.trans hinfo.2⟩)
        (fun k info _ hinfo => hinfo)
    have howner := Entries.modify (f := (·.SetOwner true))
      (Q := fun k info => info.player = k ∧ (info.IsOwner = true ↔ k = p)) hmoderator
      ((isOn_modify hpd p).trans hpd)
      (fun info hinfo => ⟨hinfo.1, by simp [PlayerInfo.isOwner_setOwner]⟩)
      (fun k info hk hinfo => ⟨hinfo.1, by simp [hinfo.2, hk]⟩)
    have hsame : ∀ k, ((Channel.modify { d with m_ownerGUID := p } p (·.SetModerator true)).modify p
        (·.SetOwner true)).IsOn k = c.IsOn k := by
      intro k
      rw [isOn_modify ((isOn_modify hpd p).trans hpd), isOn_modify hpd]
      exact hon k
    refine ⟨⟨⟨fun _ => (hsame p).trans hp, fun k info hk => ?_⟩, fun k info hk => ?_, hdownership,
      hdcustom⟩, hsame⟩
    · exact (howner k info hk).2.trans ⟨fun hkp => ⟨hzero, hkp⟩, fun hkp => hkp.2⟩
    · exact (howner k info hk).1

theorem Kept.modify (h : c.Kept) (hp : c.IsOn p = true)
    (hplayer : ∀ info, (f info).player = info.player)
    (hflag : ∀ info, (f info).IsOwner = info.IsOwner) :
    (c.modify p f).Kept ∧ ∀ k, (c.modify p f).IsOn k = c.IsOn k := by
  have hsame := isOn_modify (f := f) hp
  refine ⟨⟨⟨fun hne => (hsame _).trans (h.member hne), ?_⟩, ?_, h.ownership, h.custom⟩, hsame⟩
  · exact Entries.modify h.flag hp (fun info hinfo => by rwa [hflag]) (fun k info _ hinfo => hinfo)
  · exact Entries.modify h.named hp (fun info hinfo => (hplayer info).trans hinfo)
      (fun k info _ hinfo => hinfo)

theorem Flagged.modify (h : c.Flagged) (hp : c.IsOn p = true)
    (hplayer : ∀ info, (f info).player = info.player)
    (hflag : ∀ info, (f info).IsOwner = info.IsOwner) : (c.modify p f).Flagged :=
  Entries.modify h hp
    (fun info hinfo => ⟨(hplayer info).trans hinfo.1, by rw [hflag]; exact hinfo.2⟩)
    (fun k info _ hinfo => hinfo)

/-- The list without an entry. -/
abbrev without (c : Channel) (p : ℕ) : Channel := { c with players := c.players.erase p }

theorem Flagged.without (h : c.Flagged) (p : ℕ) : (c.without p).Flagged := by
  intro k info hk
  rw [find?_erase] at hk
  split_ifs at hk
  exact h k info hk

theorem isOn_without (p k : ℕ) : (c.without p).IsOn k = (decide (k ≠ p) && c.IsOn k) := by
  unfold IsOn OrderedMap.contains
  rw [find?_erase]
  by_cases hkp : k = p
  · simp [hkp]
  · simp [hkp]

theorem Kept.without (h : c.Kept) (hp : p ≠ c.m_ownerGUID ∨ c.m_ownerGUID = 0) :
    (c.without p).Kept := by
  refine ⟨⟨fun hne => ?_, fun k info hk => ?_⟩, fun k info hk => ?_, h.ownership, h.custom⟩
  · have hp' : c.m_ownerGUID ≠ p := fun heq => hp.elim (fun hp => hp heq.symm) hne
    rw [isOn_without, h.member hne]
    simpa using hp'
  all_goals
    rw [find?_erase] at hk
    split_ifs at hk
  · exact h.flag k info hk
  · exact h.named k info hk

/-- The list with a new entry. -/
abbrev withNew (c : Channel) (p : ℕ) : Channel :=
  { c with players := c.players.set p ⟨p, PlayerInfo.MEMBER_FLAG_NONE⟩ }

theorem isOwner_new (p : ℕ) :
    (⟨p, PlayerInfo.MEMBER_FLAG_NONE⟩ : PlayerInfo).IsOwner = false := by
  simp [PlayerInfo.IsOwner, PlayerInfo.MEMBER_FLAG_NONE]

theorem isOn_withNew (p k : ℕ) : (c.withNew p).IsOn k = (decide (k = p) || c.IsOn k) := by
  unfold IsOn OrderedMap.contains
  rw [find?_set]
  by_cases hkp : k = p
  · simp [hkp]
  · simp [hkp]

theorem entries_withNew (h : c.Entries P) (hp : P p ⟨p, PlayerInfo.MEMBER_FLAG_NONE⟩) :
    (c.withNew p).Entries P := by
  intro k info hk
  rw [find?_set] at hk
  split_ifs at hk with hkp
  · cases hk
    exact hkp ▸ hp
  · exact h k info hk

theorem Flagged.withNew (h : c.Flagged) (p : ℕ) : (c.withNew p).Flagged :=
  entries_withNew h ⟨rfl, fun hflag => absurd hflag (by rw [isOwner_new]; decide)⟩

theorem Kept.withNew (h : c.Kept) (hp : c.IsOn p = false) (howner : c.m_ownerGUID ≠ 0) :
    (c.withNew p).Kept := by
  have hne : p ≠ c.m_ownerGUID := by
    rintro rfl
    rw [h.member howner] at hp
    cases hp
  refine ⟨⟨fun hne => ?_, entries_withNew h.flag ?_⟩, entries_withNew h.named rfl, h.ownership,
    h.custom⟩
  · rw [isOn_withNew, h.member hne, Bool.or_true]
  · rw [isOwner_new]
    exact ⟨fun hflag => absurd hflag (by decide), fun hown => absurd hown.2 hne⟩

/-! ## Requests -/

/-- **What an answer to a request keeps**: the channel, if it is not deleted; that its members are
inside; and whoever is removed is not a member. -/
structure Answers (c : Channel) (request : Request) (out : Reply × Channel) : Prop where
  kept : request.leftChannel out.2 ≠ none → out.2.Kept
  inside : ∀ inside : Finset ℕ, (∀ k, c.IsOn k = true → k ∈ inside) →
    ∀ k, out.2.IsOn k = true → k ∈ request.inside inside out.1
  removed : ∀ guid, out.1.removed? = some guid → out.2.IsOn guid = false

variable {request : Request} {world : World}

theorem Answers.same {out : Reply × Channel} (h : out.2.Kept) (hon : ∀ k, out.2.IsOn k = c.IsOn k)
    (hinside : ∀ inside, request.inside inside out.1 = inside) (hremoved : out.1.removed? = none) :
    Answers c request out := by
  refine ⟨fun _ => h, fun inside hc k hk => ?_, fun guid hguid => ?_⟩
  · rw [hinside]
    exact hc k ((hon k).symm.trans hk)
  · rw [hremoved] at hguid
    cases hguid

theorem Kept.refused (h : c.Kept) {reply : Reply}
    (hinside : ∀ inside, request.inside inside reply = inside) (hremoved : reply.removed? = none) :
    Answers c request (reply, c) :=
  .same h (fun _ => rfl) hinside hremoved

theorem Answers.asModerator (hc : c.Kept) {out : Reply × Channel} (h : Answers c request out)
    (good : ℕ) : Answers c request (c.asModerator world good out) := by
  unfold Channel.asModerator
  split_ifs
  · exact hc.refused (by cases request <;> exact fun _ => rfl) rfl
  · exact hc.refused (by cases request <;> exact fun _ => rfl) rfl
  · exact h

theorem Kept.join (h : c.Kept) (p : ℕ) (pass : String) :
    Answers c (.join p pass) (c.join world p pass) := by
  unfold Channel.join
  by_cases hp : c.IsOn p = true
  · rw [if_pos hp, h.custom]
    exact h.refused (fun _ => rfl) rfl
  · rw [if_neg hp]
    rw [Bool.not_eq_true] at hp
    have hjoined : ∀ d : Channel, d.Kept → (∀ k, d.IsOn k = (c.withNew p).IsOn k) →
        Answers c (.join p pass) (.joined, d) := by
      intro d hd hon
      refine ⟨fun _ => hd, fun inside hc k hk => ?_, fun guid hguid => by cases hguid⟩
      rw [hon, isOn_withNew, Bool.or_eq_true, decide_eq_true_eq] at hk
      exact Finset.mem_insert.mpr (hk.imp_right (hc k))
    by_cases hbanned : c.IsBanned p = true
    · rw [if_pos hbanned]
      exact h.refused (fun _ => rfl) rfl
    · rw [if_neg hbanned]
      by_cases hpass : c.m_password ≠ "" ∧ pass ≠ c.m_password
      · rw [if_pos hpass]
        exact h.refused (fun _ => rfl) rfl
      · rw [if_neg hpass]
        split_ifs with hlfg
        · exact h.refused (fun _ => rfl) rfl
        · by_cases hfirst : c.m_ownerGUID = 0
          · -- the first member becomes the owner
            have howner : (!(c.withNew p).IsConstant) = true ∧ (c.withNew p).m_ownerGUID = 0 ∧
                (c.withNew p).m_ownership = true :=
              ⟨by rw [show (c.withNew p).IsConstant = c.IsConstant from rfl, h.custom]; rfl, hfirst,
                h.ownership⟩
            have hon : (c.withNew p).IsOn p = true := by simp [isOn_withNew]
            obtain ⟨hkept, hsame⟩ := (h.flagged.withNew p).setOwner h.ownership h.custom hon
            obtain ⟨hkept', hsame'⟩ := hkept.modify (f := (·.SetModerator true))
              ((hsame p).trans hon) (fun _ => rfl) (fun _ => PlayerInfo.isOwner_setModerator)
            rw [if_pos howner]
            exact hjoined _ hkept' fun k => (hsame' k).trans (hsame k)
          · dsimp only
            rw [if_neg fun howner => hfirst howner.2.1]
            exact hjoined _ (h.withNew hp hfirst) fun _ => rfl

theorem Flagged.promote (h : c.Flagged) (hownership : c.m_ownership = true)
    (hcustom : c.IsConstant = false) (hp : c.IsOn p = true) :
    ((c.modify p (·.SetModerator true)).setOwner p).Kept ∧
      ∀ k, ((c.modify p (·.SetModerator true)).setOwner p).IsOn k = c.IsOn k := by
  have hsame := isOn_modify (f := (·.SetModerator true)) hp
  have hflagged := h.modify (f := (·.SetModerator true)) hp (fun _ => rfl)
    (fun _ => PlayerInfo.isOwner_setModerator)
  obtain ⟨hkept, hsame'⟩ := hflagged.setOwner hownership hcustom ((hsame p).trans hp)
  exact ⟨hkept, fun k => (hsame' k).trans (hsame k)⟩

theorem Kept.leave (h : c.Kept) (p : ℕ) (send : Bool) :
    Answers c (.leave p send) (c.leave p send) := by
  unfold Channel.leave
  by_cases hp : c.IsOn p = true
  · have hin : ¬ (!c.IsOn p) = true := by rw [hp]; decide
    obtain ⟨info, hinfo⟩ := contains_iff.mp hp
    have hleft : ∀ d : Channel, (Request.leftChannel d (.leave p send) ≠ none → d.Kept) →
        (∀ k, d.IsOn k = (c.without p).IsOn k) →
        Answers c (.leave p send) (.left, d) := by
      intro d hd hon
      refine ⟨hd, fun inside hc k hk => ?_, fun guid hguid => by cases hguid⟩
      rw [hon, isOn_without, Bool.and_eq_true, decide_eq_true_eq] at hk
      exact Finset.mem_erase.mpr ⟨hk.1, hc k hk.2⟩
    rw [if_neg hin, get_of_find? hinfo]
    by_cases howner : info.IsOwner = true
    · have hchange : (!(c.without p).IsConstant) = true ∧ info.IsOwner = true ∧
          c.m_ownership = true :=
        ⟨by rw [show (c.without p).IsConstant = c.IsConstant from rfl, h.custom]; rfl, howner,
          h.ownership⟩
      have hflagged := h.flagged.without p
      rw [if_pos hchange]
      cases hentries : (c.players.erase p).entries with
      | nil =>
        -- the channel is deleted
        refine hleft _ (fun hstays => absurd ?_ hstays) fun _ => rfl
        refine if_pos ⟨?_, hchange.1⟩
        rw [OrderedMap.size, hentries]
        rfl
      | cons first rest =>
        have hfirst : (c.players.erase p).find? first.1 = some first.2 :=
          mem_entries.mp (by rw [hentries]; exact List.mem_cons_self)
        have hnewowner : first.2.player = first.1 := (hflagged first.1 first.2 hfirst).1
        have hon : (c.without p).IsOn first.1 = true :=
          contains_iff.mpr ⟨first.2, hfirst⟩
        obtain ⟨hkept, hsame⟩ := hflagged.promote h.ownership h.custom hon
        dsimp only
        rw [hnewowner]
        exact hleft _ (fun _ => hkept) hsame
    · have hnotOwner : p ≠ c.m_ownerGUID ∨ c.m_ownerGUID = 0 := by
        have hflag := mt (h.flag p info hinfo).mpr howner
        by_contra hcontra
        obtain ⟨hp', hzero⟩ := not_or.mp hcontra
        exact hflag ⟨hzero, not_not.mp hp'⟩
      rw [if_neg fun hchange => howner hchange.2.1]
      exact hleft _ (fun _ => h.without hnotOwner) fun _ => rfl
  · have hout : (!c.IsOn p) = true := by simpa using hp
    rw [if_pos hout]
    split_ifs
    · exact h.refused (fun _ => rfl) rfl
    · exact h.refused (fun _ => rfl) rfl

theorem Kept.kickOrBan (h : c.Kept) (good : ℕ) (badname : String) (ban : Bool)
    (hself : ∀ bad, world.FindPlayerByName badname = some bad → c.IsOn good = true →
      good = c.m_ownerGUID → bad.guid ≠ good) :
    Answers c (.kickOrBan good badname ban) (c.kickOrBan world good badname ban) := by
  by_cases hgood : c.IsOn good = true
  · refine Answers.asModerator h ?_ good
    cases hbad : world.FindPlayerByName badname with
    | none => exact h.refused (fun _ => rfl) rfl
    | some bad =>
      have hremoved : ∀ d : Channel, d.Kept → (∀ k, d.IsOn k = (c.without bad.guid).IsOn k) →
          Answers c (.kickOrBan good badname ban) (.removed bad.guid, d) := by
        intro d hd hon
        refine ⟨fun _ => hd, fun inside hc k hk => ?_, fun guid hguid => ?_⟩
        · rw [hon, isOn_without, Bool.and_eq_true, decide_eq_true_eq] at hk
          exact Finset.mem_erase.mpr ⟨hk.1, hc k hk.2⟩
        · cases hguid
          simp [hon, isOn_without]
      -- whether the player is banned does not matter for the list
      obtain ⟨d, hd, hkept, hsame, howner⟩ : ∃ d : Channel,
          (if ban then { c with banned := insert bad.guid c.banned } else c) = d ∧ d.Kept ∧
          d.players = c.players ∧ d.m_ownerGUID = c.m_ownerGUID := by
        split_ifs
        · exact ⟨_, rfl, ⟨⟨h.member, h.flag⟩, h.named, h.ownership, h.custom⟩, rfl, rfl⟩
        · exact ⟨c, rfl, h, rfl, rfl⟩
      have hon : ∀ k, (d.without bad.guid).IsOn k = (c.without bad.guid).IsOn k := by
        intro k
        rw [isOn_without, isOn_without, IsOn, IsOn, hsame]
      -- where the owner is removed, it is someone else who does it, and who remains
      have hstays : c.m_ownerGUID = bad.guid → (d.without bad.guid).IsOn good = true := by
        intro hown
        have hne : good ≠ bad.guid := by
          rintro rfl
          exact hself bad hbad hgood hown.symm rfl
        rw [hon, isOn_without, hgood]
        simpa using hne
      dsimp only
      rw [hd]
      by_cases hin : (!c.IsOn bad.guid) = true
      · rw [if_pos hin]
        exact h.refused (fun _ => rfl) rfl
      · rw [if_neg hin]
        split_ifs with hnotOwner hchange
        · exact h.refused (fun _ => rfl) rfl
        · obtain ⟨hpromoted, hmembers⟩ := (hkept.flagged.without bad.guid).promote
            hkept.ownership hkept.custom (hstays (of_decide_eq_true hchange.1))
          exact hremoved _ hpromoted fun k => (hmembers k).trans (hon k)
        · refine hremoved _ (hkept.without (.inl fun heq => hchange ?_)) hon
          have hown : c.m_ownerGUID = bad.guid := howner.symm.trans heq.symm
          obtain ⟨info, hinfo⟩ := contains_iff.mp (hstays hown)
          exact ⟨decide_eq_true hown, hkept.ownership,
            List.ne_nil_of_mem (mem_entries.mpr hinfo)⟩
  · unfold Channel.kickOrBan Channel.asModerator
    rw [if_pos (by simpa using hgood)]
    exact h.refused (fun _ => rfl) rfl

theorem Kept.unBan (h : c.Kept) (good : ℕ) (badname : String) :
    Answers c (.unBan good badname) (c.unBan world good badname) := by
  refine Answers.asModerator h ?_ good
  cases world.FindPlayerByName badname with
  | none => exact h.refused (fun _ => rfl) rfl
  | some bad =>
    dsimp only
    split_ifs
    · exact h.refused (fun _ => rfl) rfl
    · exact .same ⟨⟨h.member, h.flag⟩, h.named, h.ownership, h.custom⟩ (fun _ => rfl)
        (fun _ => rfl) rfl

theorem Kept.password (h : c.Kept) (p : ℕ) (pass : String) :
    Answers c (.password p pass) (c.password world p pass) :=
  Answers.asModerator h (.same ⟨⟨h.member, h.flag⟩, h.named, h.ownership, h.custom⟩ (fun _ => rfl)
    (fun _ => rfl) rfl) p

theorem Kept.setMode (h : c.Kept) (p : ℕ) (p2n : String) (mod set : Bool) :
    Answers c (.setMode p p2n mod set) (c.setMode world p p2n mod set) := by
  unfold Channel.setMode
  cases world.FindPlayer p with
  | none => exact h.refused (fun _ => rfl) rfl
  | some player =>
    refine Answers.asModerator h ?_ p
    cases world.FindPlayerByName p2n with
    | none => exact h.refused (fun _ => rfl) rfl
    | some newp =>
      dsimp only
      split_ifs with hown hon
      · exact h.refused (fun _ => rfl) rfl
      · exact h.refused (fun _ => rfl) rfl
      · exact h.refused (fun _ => rfl) rfl
      · exact h.refused (fun _ => rfl) rfl
      · rw [Channel.setModerator]
        split_ifs
        · obtain ⟨hkept, hsame⟩ := h.modify (f := (·.SetModerator set)) (by simpa using hon)
            (fun _ => rfl) (fun _ => PlayerInfo.isOwner_setModerator)
          exact .same hkept hsame (fun _ => rfl) rfl
        · exact h.refused (fun _ => rfl) rfl
      · rw [Channel.setMute]
        split_ifs
        · obtain ⟨hkept, hsame⟩ := h.modify (f := (·.SetMuted set)) (by simpa using hon)
            (fun _ => rfl) (fun _ => PlayerInfo.isOwner_setMuted)
          exact .same hkept hsame (fun _ => rfl) rfl
        · exact h.refused (fun _ => rfl) rfl

theorem Kept.setOwnerByName (h : c.Kept) (p : ℕ) (newname : String) :
    Answers c (.setOwner p newname) (c.setOwnerByName world p newname) := by
  unfold Channel.setOwnerByName
  cases world.FindPlayer p with
  | none => exact h.refused (fun _ => rfl) rfl
  | some player =>
    dsimp only
    split_ifs
    · exact h.refused (fun _ => rfl) rfl
    · exact h.refused (fun _ => rfl) rfl
    · cases world.FindPlayerByName newname with
      | none => exact h.refused (fun _ => rfl) rfl
      | some newp =>
        dsimp only
        split_ifs with hon
        · exact h.refused (fun _ => rfl) rfl
        · exact h.refused (fun _ => rfl) rfl
        · obtain ⟨hkept, hsame⟩ := h.flagged.promote h.ownership h.custom (p := newp.guid)
            (by simpa using hon)
          exact .same hkept hsame (fun _ => rfl) rfl

theorem Kept.answer (h : c.Kept) (world : World) (request : Request)
    (hself : ∀ good badname ban, request = .kickOrBan good badname ban →
      ∀ bad, world.FindPlayerByName badname = some bad → c.IsOn good = true →
        good = c.m_ownerGUID → bad.guid ≠ good) :
    Answers c request (c.answer world request) := by
  cases request with
  | join p pass => exact h.join p pass
  | leave p send => exact h.leave p send
  | kickOrBan good badname ban => exact h.kickOrBan good badname ban (hself good badname ban rfl)
  | unBan good badname => exact h.unBan good badname
  | setOwner p newname => exact h.setOwnerByName p newname
  | setMode p p2n mod set => exact h.setMode p p2n mod set
  | password p pass => exact h.password p pass

end Channel

/-! ## Runs -/

/-- **The owner does not kick or ban the owner.** -/
def NotByThemselves (room : Room) (op : World × Request) : Prop :=
  ∀ good badname ban, op.2 = .kickOrBan good badname ban →
    ∀ c, room.channel = some c → ∀ bad, op.1.FindPlayerByName badname = some bad →
      c.IsOn good = true → good = c.m_ownerGUID → bad.guid ≠ good

/-- What holds of a room in every run. -/
structure Room.Kept (room : Room) : Prop where
  channel : ∀ c, room.channel = some c → c.Kept
  inside : ∀ c, room.channel = some c → ∀ k, c.IsOn k = true → k ∈ room.inside
  removed : ∀ c, room.channel = some c → ∀ guid, room.removed = some guid → c.IsOn guid = false

theorem Request.leftChannel_eq {c d : Channel} {request : Request}
    (h : request.leftChannel c = some d) : d = c := by
  cases request <;> simp only [Request.leftChannel] at h
  case leave =>
    split_ifs at h
    exact (Option.some.inj h).symm
  all_goals exact (Option.some.inj h).symm

theorem Room.Kept.step {room : Room} {op : World × Request} (h : room.Kept)
    (hself : NotByThemselves room op) : (step room op).Kept := by
  unfold Chat.step
  cases hchannel : room.channel with
  | none =>
    refine ⟨?_, ?_, ?_⟩
    all_goals
      intro c hc
      cases hc
  | some c =>
    have hanswers := (h.channel c hchannel).answer op.1 op.2
      fun good badname ban hop => hself good badname ban hop c hchannel
    refine ⟨fun d hd => ?_, fun d hd => ?_, fun d hd => ?_⟩
    all_goals
      obtain rfl := Request.leftChannel_eq hd
    · refine hanswers.kept fun hnone => ?_
      change Request.leftChannel (c.answer op.1 op.2).2 op.2 = _ at hd
      rw [hnone] at hd
      cases hd
    · exact hanswers.inside room.inside (h.inside c hchannel)
    · exact hanswers.removed

theorem Room.Kept.new {saved : Option SavedChannel}
    (hownership : (Channel.new saved).m_ownership = true) : (Room.new saved).Kept := by
  refine ⟨fun c hc => ?_, fun c hc => ?_, fun c hc => ?_⟩
  all_goals
    cases hc
  · exact ⟨⟨fun hne => absurd rfl hne, (fun _ _ hk => by cases hk)⟩,
      (fun _ _ hk => by cases hk), hownership, rfl⟩
  · exact fun k hk => by cases hk
  · exact fun guid hguid => by cases hguid

/-- **The channel of a room is owned**: the owner, if there is one, is a member and has the flag,
and no one else has it; every member has joined and has not left since; and whom the last request
has kicked or banned is not a member. -/
def Room.Owned (room : Room) : Prop :=
  ∀ c, room.channel = some c →
    (c.m_ownerGUID ≠ 0 → c.IsOn c.m_ownerGUID = true) ∧
      (∀ k info, c.players.find? k = some info →
        (info.IsOwner = true ↔ c.m_ownerGUID ≠ 0 ∧ k = c.m_ownerGUID)) ∧
      (∀ k, c.IsOn k = true → k ∈ room.inside) ∧
      ∀ guid, room.removed = some guid → c.IsOn guid = false

/-- **A custom channel is owned** after every run in which no owner kicks or bans the owner. -/
theorem owned_of_run (saved : Option SavedChannel)
    (hownership : (Channel.new saved).m_ownership = true) (ops : List (World × Request))
    (h : Admissible step NotByThemselves (.new saved) ops) :
    (run step (.new saved) ops).Owned := by
  have hkept : (run step (.new saved) ops).Kept :=
    run_invariant Room.Kept (fun _ _ hroom hself => hroom.step hself) (Room.Kept.new hownership) h
  intro c hc
  exact ⟨(hkept.channel c hc).member, (hkept.channel c hc).flag, hkept.inside c hc,
    hkept.removed c hc⟩

def oneAndTwo : World where
  FindPlayer guid := if guid = 1 ∨ guid = 2 then some ⟨guid, 0, 0, false⟩ else none
  FindPlayerByName name :=
    if name = "One" then some ⟨1, 0, 0, false⟩
    else if name = "Two" then some ⟨2, 0, 0, false⟩
    else none
  restrictedLfgChannel := false
  twoSideInteraction := false

/-- One, who owns the channel, bans Two. -/
theorem owned_of_run_ban :
    (run step (.new none) [(oneAndTwo, .join 1 ""), (oneAndTwo, .join 2 ""),
      (oneAndTwo, .kickOrBan 1 "Two" true)]).Owned := by
  refine owned_of_run none rfl _ ⟨?_, ?_, ?_, trivial⟩
  · intro good badname ban hop
    cases hop
  · intro good badname ban hop
    cases hop
  · intro good badname ban hop c _ bad hbad _ _
    cases hop
    cases hbad
    decide

/-- **One kicks One**, and is in the list afterwards. -/
theorem owner_kicked_stays :
    ¬ (run step (.new none) [(oneAndTwo, .join 1 ""), (oneAndTwo, .join 2 ""),
      (oneAndTwo, .kickOrBan 1 "One" false)]).Owned := by
  intro howned
  have hremoved : (run step (.new none) [(oneAndTwo, .join 1 ""), (oneAndTwo, .join 2 ""),
      (oneAndTwo, .kickOrBan 1 "One" false)]).removed = some 1 := by decide +kernel
  have hmember : (run step (.new none) [(oneAndTwo, .join 1 ""), (oneAndTwo, .join 2 ""),
      (oneAndTwo, .kickOrBan 1 "One" false)]).channel.map (·.IsOn 1) = some true := by
    decide +kernel
  obtain ⟨c, hc, hon⟩ := Option.map_eq_some_iff.mp hmember
  rw [(howned c hc).2.2.2 1 hremoved] at hon
  cases hon

end TeraCore.Chat
