import MixedProject.FeedCoherence

namespace MixedProject.CommentLinks

open CommentsTableViewCell FeedCoherence

def ReplyForm (item : CircleModel) (commentsDic : CommentDic) : Prop :=
  ∃ toUserName, commentsDic.commentToUserName = some toUserName ∧ toUserName ≠ item.userName

def MarksName (label : TTTAttributedLabel) (link : Link) : Prop :=
  link.location + link.length ≤ label.text.length ∧
    (label.text.drop link.location).take link.length = link.userName

structure NamesLinked (item : CircleModel) (commentsDic : CommentDic) (label : TTTAttributedLabel) :
    Prop where
  text : label.text = commentsText item commentsDic
  marks : ∀ link ∈ label.linkModels, MarksName label link
  second : (∃ link, label.linkModels[1]? = some link) ↔
    ReplyForm item commentsDic ∧ commentsDic.commentToUserName ≠ some []

def IdMatchesName (item : CircleModel) (commentsDic : CommentDic) : Prop :=
  ∀ toUserName, commentsDic.commentToUserName = some toUserName → toUserName ≠ [] →
    ∃ toUserId, integerValueOrNil commentsDic.commentToUserId = .ok toUserId ∧
      (toUserId = item.userId ↔ toUserName = item.userName)

def nameLink (commentsDic : CommentDic) : Link :=
  ⟨0, commentsDic.commentUserName.length, commentsDic.commentUserName⟩

def replyLink (commentsDic : CommentDic) (toUserName : NSString) : Link :=
  ⟨commentsDic.commentUserName.length + 2, toUserName.length, toUserName⟩

def named (item : CircleModel) (commentsDic : CommentDic) : TTTAttributedLabel :=
  ⟨commentsText item commentsDic, [nameLink commentsDic]⟩

variable {m : Metrics} {item : CircleModel} {commentsDic : CommentDic}

theorem commentsText_name (item : CircleModel) (commentsDic : CommentDic) :
    ∃ rest, commentsText item commentsDic = commentsDic.commentUserName ++ rest := by
  unfold commentsText
  split
  · exact ⟨_, List.append_assoc ..⟩
  · split_ifs
    · exact ⟨_, List.append_assoc ..⟩
    · exact ⟨_, by simp only [List.append_assoc]; rfl⟩

theorem commentsText_reply {toUserName : NSString}
    (hto : commentsDic.commentToUserName = some toUserName) (hne : toUserName ≠ item.userName) :
    ∃ rest, commentsText item commentsDic =
      commentsDic.commentUserName ++ (ns "回复" ++ (toUserName ++ rest)) := by
  simp only [commentsText, hto, if_neg hne, List.append_assoc]
  exact ⟨_, rfl⟩

theorem marks_nameLink (links : List Link) :
    MarksName ⟨commentsText item commentsDic, links⟩ (nameLink commentsDic) := by
  obtain ⟨rest, hrest⟩ := commentsText_name item commentsDic
  rw [hrest]
  constructor
  · simp only [nameLink, List.length_append]
    omega
  · rw [nameLink, List.drop_zero, List.take_left]

theorem marks_replyLink {toUserName : NSString}
    (hto : commentsDic.commentToUserName = some toUserName) (hne : toUserName ≠ item.userName)
    (links : List Link) :
    MarksName ⟨commentsText item commentsDic, links⟩ (replyLink commentsDic toUserName) := by
  have hlength : (ns "回复").length = 2 := by decide
  obtain ⟨rest, hrest⟩ := commentsText_reply hto hne
  rw [hrest]
  constructor
  · simp only [replyLink, List.length_append, hlength]
    omega
  · simp only [replyLink]
    rw [← List.drop_drop, List.drop_left, ← hlength, List.drop_left, List.take_left]

theorem getCommntsString_named (m : Metrics) (item : CircleModel) (commentsDic : CommentDic) :
    getCommntsString m item commentsDic =
      (addReplyLink item commentsDic (named item commentsDic)).bind fun commentLab =>
        .ok ⟨commentLab, calculateCommentsHeight m (commentsText item commentsDic)⟩ := by
  have hmark : MarksName (TTTAttributedLabel.setText (commentsText item commentsDic))
      (nameLink commentsDic) := marks_nameLink []
  have hname := TTTAttributedLabel.addLink_ok hmark.1
  simp only [getCommntsString]
  rw [show (⟨0, commentsDic.commentUserName.length, commentsDic.commentUserName⟩ : Link) =
    nameLink commentsDic from rfl, hname]
  rfl

theorem getCommntsString_label {cell : CommentsTableViewCell}
    (h : getCommntsString m item commentsDic = .ok cell) :
    addReplyLink item commentsDic (named item commentsDic) = .ok cell.commentLab := by
  rw [getCommntsString_named] at h
  obtain ⟨commentLab, hlabel, hcell⟩ := bind_ok h
  cases hcell
  exact hlabel

theorem getCommntsString_of_label {label : TTTAttributedLabel}
    (h : addReplyLink item commentsDic (named item commentsDic) = .ok label) :
    ∃ cell, getCommntsString m item commentsDic = .ok cell ∧ cell.commentLab = label := by
  refine ⟨⟨label, calculateCommentsHeight m (commentsText item commentsDic)⟩, ?_, rfl⟩
  rw [getCommntsString_named, h]
  rfl

theorem addReplyLink_absent {label : TTTAttributedLabel}
    (h : ∀ toUserName, commentsDic.commentToUserName = some toUserName → toUserName = []) :
    addReplyLink item commentsDic label = .ok label := by
  unfold addReplyLink
  split
  · rfl
  · next toUserName hto =>
    have hempty : toUserName.length ≤ 0 := by rw [h toUserName hto, List.length_nil]
    rw [if_pos hempty]

theorem addReplyLink_id {toUserName : NSString} {label : TTTAttributedLabel}
    (hto : commentsDic.commentToUserName = some toUserName) (hne : toUserName ≠ []) :
    addReplyLink item commentsDic label =
      (integerValueOrNil commentsDic.commentToUserId).bind fun toUserId =>
        if toUserId = item.userId then .ok label
        else label.addLinkToTransitInformation (replyLink commentsDic toUserName) := by
  have hlength : ¬ toUserName.length ≤ 0 := by
    rw [Nat.le_zero, List.length_eq_zero_iff]
    exact hne
  simp only [addReplyLink, hto, if_neg hlength]
  rfl

theorem namesLinked_alone (hform : ReplyForm item commentsDic → commentsDic.commentToUserName = some []) :
    NamesLinked item commentsDic (named item commentsDic) := by
  refine ⟨rfl, ?_, ?_⟩
  · intro link hlink
    rw [List.mem_singleton.mp hlink]
    exact marks_nameLink _
  · constructor
    · rintro ⟨link, hlink⟩
      cases hlink
    · rintro ⟨hreply, hne⟩
      exact absurd (hform hreply) hne

theorem namesLinked_reply {toUserName : NSString}
    (hto : commentsDic.commentToUserName = some toUserName) (hne : toUserName ≠ [])
    (hform : toUserName ≠ item.userName) :
    NamesLinked item commentsDic ⟨commentsText item commentsDic,
      [nameLink commentsDic, replyLink commentsDic toUserName]⟩ := by
  refine ⟨rfl, ?_, ?_⟩
  · intro link hlink
    rcases List.mem_pair.mp hlink with rfl | rfl
    · exact marks_nameLink _
    · exact marks_replyLink hto hform _
  · constructor
    · intro _
      refine ⟨⟨toUserName, hto, hform⟩, ?_⟩
      rw [hto]
      exact fun h => hne (Option.some.inj h)
    · intro _
      exact ⟨_, rfl⟩

theorem replyForm_iff {toUserName : NSString} (hto : commentsDic.commentToUserName = some toUserName) :
    ReplyForm item commentsDic ↔ toUserName ≠ item.userName := by
  simp [ReplyForm, hto]

theorem linked_of_idMatches (h : IdMatchesName item commentsDic) :
    ∃ label, addReplyLink item commentsDic (named item commentsDic) = .ok label ∧
      NamesLinked item commentsDic label := by
  by_cases hreply : ∃ toUserName, commentsDic.commentToUserName = some toUserName ∧ toUserName ≠ []
  · obtain ⟨toUserName, hto, hne⟩ := hreply
    obtain ⟨toUserId, hid, hmatch⟩ := h toUserName hto hne
    rw [addReplyLink_id hto hne, hid]
    by_cases hown : toUserId = item.userId
    · refine ⟨named item commentsDic, if_pos hown, namesLinked_alone ?_⟩
      intro hform
      exact absurd (hmatch.mp hown) ((replyForm_iff hto).mp hform)
    · have hform : toUserName ≠ item.userName := fun hsame => hown (hmatch.mpr hsame)
      refine ⟨_, ?_, namesLinked_reply hto hne hform⟩
      rw [Except.bind, if_neg hown]
      exact TTTAttributedLabel.addLink_ok (marks_replyLink hto hform _).1
  · have habsent : ∀ toUserName, commentsDic.commentToUserName = some toUserName → toUserName = [] := by
      intro toUserName hto
      by_contra hne
      exact hreply ⟨toUserName, hto, hne⟩
    refine ⟨named item commentsDic, addReplyLink_absent habsent, namesLinked_alone ?_⟩
    rintro ⟨toUserName, hto, -⟩
    rw [hto, habsent toUserName hto]

theorem idMatches_of_linked {label : TTTAttributedLabel}
    (hlabel : addReplyLink item commentsDic (named item commentsDic) = .ok label)
    (h : NamesLinked item commentsDic label) : IdMatchesName item commentsDic := by
  intro toUserName hto hne
  have hnonempty : commentsDic.commentToUserName ≠ some [] := by
    rw [hto]
    exact fun heq => hne (Option.some.inj heq)
  rw [addReplyLink_id hto hne] at hlabel
  obtain ⟨toUserId, hid, hlink⟩ := bind_ok hlabel
  refine ⟨toUserId, hid, ?_⟩
  split_ifs at hlink with hown
  · cases hlink
    have hplain : ¬ ReplyForm item commentsDic := by
      intro hform
      obtain ⟨link, hsecond⟩ := h.second.mpr ⟨hform, hnonempty⟩
      cases hsecond
    rw [replyForm_iff hto, not_not] at hplain
    exact ⟨fun _ => hplain, fun _ => hown⟩
  · have hsecond : ∃ link, label.linkModels[1]? = some link := by
      unfold TTTAttributedLabel.addLinkToTransitInformation at hlink
      split_ifs at hlink
      cases hlink
      exact ⟨_, rfl⟩
    have hform := (replyForm_iff hto).mp (h.second.mp hsecond).1
    exact ⟨fun heq => absurd heq hown, fun heq => absurd heq hform⟩

theorem comment_links_iff (m : Metrics) (item : CircleModel) (commentsDic : CommentDic) :
    (∃ cell, getCommntsString m item commentsDic = .ok cell ∧
      NamesLinked item commentsDic cell.commentLab) ↔ IdMatchesName item commentsDic := by
  constructor
  · rintro ⟨cell, hcell, hlinked⟩
    exact idMatches_of_linked (getCommntsString_label hcell) hlinked
  · intro h
    obtain ⟨label, hlabel, hlinked⟩ := linked_of_idMatches h
    obtain ⟨cell, hcell, rfl⟩ := getCommntsString_of_label (m := m) hlabel
    exact ⟨cell, hcell, hlinked⟩

def row104 : CircleModel where
  userId := 20
  userName := ns "刘希"

def replyToNamesake : CommentDic where
  commentUserId := some (.number 100)
  commentUserName := ns "阿凡达"
  commentText := ns "17日凌晨，王晗再发公开信回应，不过随后该公开信被删除。"
  commentToUserId := some (.number 20)
  commentToUserName := some (ns "帝天")

theorem reply_name_unlinked :
    ¬ ∀ (m : Metrics) (item : CircleModel) (commentsDic : CommentDic),
      ∃ cell, getCommntsString m item commentsDic = .ok cell ∧
        NamesLinked item commentsDic cell.commentLab := by
  intro h
  obtain ⟨cell, hcell, hlinked⟩ := h ⟨fun _ => 18, fun _ => 18⟩ row104 replyToNamesake
  have hform : ReplyForm row104 replyToNamesake := ⟨ns "帝天", rfl, by decide⟩
  obtain ⟨link, hlink⟩ := hlinked.second.mpr ⟨hform, by decide⟩
  have hlabel := getCommntsString_label hcell
  have hsingle : addReplyLink row104 replyToNamesake (named row104 replyToNamesake) =
      .ok (named row104 replyToNamesake) := by decide +kernel
  rw [hsingle] at hlabel
  rw [← Except.ok.inj hlabel] at hlink
  cases hlink

end MixedProject.CommentLinks
