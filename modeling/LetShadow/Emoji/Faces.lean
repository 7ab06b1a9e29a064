/-
**Faces, smiling and otherwise.**

* `faces` — the emoji of this kind, with their names.
-/

import LetShadow.Emoji.Entry

namespace LetShadow.Emoji

/-- Faces, smiling and otherwise. -/
def faces : List Entry :=
  [
    ⟨"😀", ["grinning_face", "grinning"]⟩, ⟨"😁", ["beaming_face_with_smiling_eyes", "grin"]⟩,
    ⟨"😂", ["face_with_tears_of_joy", "joy"]⟩, ⟨"😃", ["grinning_face_with_big_eyes", "smiley"]⟩,
    ⟨"😄", ["grinning_face_with_smiling_eyes", "smile"]⟩,
    ⟨"😅", ["grinning_face_with_sweat", "sweat_smile"]⟩,
    ⟨"😆", ["grinning_squinting_face", "laughing", "satisfied"]⟩,
    ⟨"😇", ["smiling_face_with_halo", "innocent"]⟩,
    ⟨"😈", ["smiling_face_with_horns", "smiling_imp"]⟩, ⟨"😉", ["winking_face", "wink"]⟩,
    ⟨"😊", ["smiling_face_with_smiling_eyes", "blush"]⟩, ⟨"😋", ["face_savoring_food", "yum"]⟩,
    ⟨"😌", ["relieved_face", "relieved"]⟩, ⟨"😍", ["smiling_face_with_heart-eyes", "heart_eyes"]⟩,
    ⟨"😎", ["smiling_face_with_sunglasses", "sunglasses"]⟩, ⟨"😏", ["smirking_face", "smirk"]⟩,
    ⟨"😐", ["neutral_face"]⟩, ⟨"😑", ["expressionless_face", "expressionless"]⟩,
    ⟨"😒", ["unamused_face", "unamused"]⟩, ⟨"😓", ["downcast_face_with_sweat", "sweat"]⟩,
    ⟨"😔", ["pensive_face", "pensive"]⟩, ⟨"😕", ["confused_face", "confused"]⟩,
    ⟨"😖", ["confounded_face", "confounded"]⟩, ⟨"😗", ["kissing_face", "kissing"]⟩,
    ⟨"😘", ["face_blowing_a_kiss", "kissing_heart"]⟩,
    ⟨"😙", ["kissing_face_with_smiling_eyes", "kissing_smiling_eyes"]⟩,
    ⟨"😚", ["kissing_face_with_closed_eyes", "kissing_closed_eyes"]⟩,
    ⟨"😛", ["face_with_tongue", "stuck_out_tongue"]⟩,
    ⟨"😜", ["winking_face_with_tongue", "stuck_out_tongue_winking_eye"]⟩,
    ⟨"😝", ["squinting_face_with_tongue", "stuck_out_tongue_closed_eyes"]⟩,
    ⟨"😞", ["disappointed_face", "disappointed"]⟩, ⟨"😟", ["worried_face", "worried"]⟩,
    ⟨"😠", ["angry_face", "angry"]⟩, ⟨"😡", ["pouting_face", "rage"]⟩, ⟨"😢", ["crying_face", "cry"]⟩,
    ⟨"😣", ["persevering_face", "persevere"]⟩, ⟨"😤", ["face_with_steam_from_nose", "triumph"]⟩,
    ⟨"😥", ["sad_but_relieved_face", "disappointed_relieved"]⟩,
    ⟨"😦", ["frowning_face_with_open_mouth", "frowning"]⟩, ⟨"😧", ["anguished_face", "anguished"]⟩,
    ⟨"😨", ["fearful_face", "fearful"]⟩, ⟨"😩", ["weary_face", "weary"]⟩,
    ⟨"😪", ["sleepy_face", "sleepy"]⟩, ⟨"😫", ["tired_face"]⟩, ⟨"😬", ["grimacing_face", "grimacing"]⟩,
    ⟨"😭", ["loudly_crying_face", "sob"]⟩, ⟨"😮", ["face_with_open_mouth", "open_mouth"]⟩,
    ⟨"😯", ["hushed_face", "hushed"]⟩, ⟨"😰", ["anxious_face_with_sweat", "cold_sweat"]⟩,
    ⟨"😱", ["face_screaming_in_fear", "scream"]⟩, ⟨"😲", ["astonished_face", "astonished"]⟩,
    ⟨"😳", ["flushed_face", "flushed"]⟩, ⟨"😴", ["sleeping_face", "sleeping"]⟩, ⟨"😵", ["dizzy_face"]⟩,
    ⟨"😶", ["face_without_mouth", "no_mouth"]⟩, ⟨"😷", ["face_with_medical_mask", "mask"]⟩,
    ⟨"😸", ["grinning_cat_face_with_smiling_eyes", "smile_cat"]⟩,
    ⟨"😹", ["cat_face_with_tears_of_joy", "joy_cat"]⟩, ⟨"😺", ["grinning_cat_face", "smiley_cat"]⟩,
    ⟨"😻", ["smiling_cat_face_with_heart-eyes", "heart_eyes_cat"]⟩,
    ⟨"😼", ["cat_face_with_wry_smile", "smirk_cat"]⟩, ⟨"😽", ["kissing_cat_face", "kissing_cat"]⟩,
    ⟨"😾", ["pouting_cat_face", "pouting_cat"]⟩, ⟨"😿", ["crying_cat_face"]⟩,
    ⟨"🙀", ["weary_cat_face", "scream_cat"]⟩, ⟨"🙁", ["slightly_frowning_face"]⟩,
    ⟨"🙂", ["slightly_smiling_face"]⟩, ⟨"🙃", ["upside-down_face", "upside__down_face"]⟩,
    ⟨"🙄", ["face_with_rolling_eyes"]⟩, ⟨"🙅", ["person_gesturing_no", "no_good"]⟩,
    ⟨"🙆", ["person_gesturing_ok", "ok_woman"]⟩, ⟨"🙇", ["person_bowing", "bow"]⟩,
    ⟨"🙈", ["see-no-evil_monkey", "see_no_evil"]⟩, ⟨"🙉", ["hear-no-evil_monkey", "hear_no_evil"]⟩,
    ⟨"🙊", ["speak-no-evil_monkey", "speak_no_evil"]⟩,
    ⟨"🙋", ["person_raising_hand", "raising_hand"]⟩, ⟨"🙌", ["raising_hands", "raised_hands"]⟩,
    ⟨"🙍", ["person_frowning"]⟩, ⟨"🙎", ["person_pouting", "person_with_pouting_face"]⟩,
    ⟨"🙏", ["folded_hands", "pray"]⟩, ⟨"🤐", ["zipper-mouth_face", "zipper__mouth_face"]⟩,
    ⟨"🤑", ["money-mouth_face", "money__mouth_face"]⟩, ⟨"🤒", ["face_with_thermometer"]⟩,
    ⟨"🤓", ["nerd_face"]⟩, ⟨"🤔", ["thinking_face"]⟩,
    ⟨"🤕", ["face_with_head-bandage", "face_with_head__bandage"]⟩, ⟨"🤖", ["robot_face", "robot"]⟩,
    ⟨"🤗", ["hugging_face"]⟩, ⟨"🤠", ["cowboy_hat_face"]⟩, ⟨"🤡", ["clown_face"]⟩,
    ⟨"🤢", ["nauseated_face"]⟩, ⟨"🤣", ["rolling_on_the_floor_laughing"]⟩, ⟨"🤤", ["drooling_face"]⟩,
    ⟨"🤥", ["lying_face"]⟩, ⟨"🤧", ["sneezing_face"]⟩, ⟨"🤨", ["face_with_raised_eyebrow"]⟩,
    ⟨"🤩", ["star-struck"]⟩, ⟨"🤪", ["zany_face"]⟩, ⟨"🤫", ["shushing_face"]⟩,
    ⟨"🤬", ["face_with_symbols_on_mouth"]⟩, ⟨"🤭", ["face_with_hand_over_mouth"]⟩,
    ⟨"🤮", ["face_vomiting"]⟩, ⟨"🤯", ["exploding_head"]⟩, ⟨"🥰", ["smiling_face_with_3_hearts"]⟩,
    ⟨"🥱", ["yawning_face"]⟩, ⟨"🥳", ["partying_face"]⟩, ⟨"🥴", ["woozy_face"]⟩, ⟨"🥵", ["hot_face"]⟩,
    ⟨"🥶", ["cold_face"]⟩, ⟨"🥺", ["pleading_face"]⟩ ]

end LetShadow.Emoji
