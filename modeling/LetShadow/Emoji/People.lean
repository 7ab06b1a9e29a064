/-
**People, the parts of their bodies, what they wear and what they do.**

* `people` — the emoji of this kind, with their names.
-/

import LetShadow.Emoji.Entry

namespace LetShadow.Emoji

/-- People, the parts of their bodies, what they wear and what they do. -/
def people : List Entry :=
  [
    ⟨"⛹️‍♀️", ["woman_bouncing_ball"]⟩, ⟨"⛹️‍♂️", ["man_bouncing_ball"]⟩,
    ⟨"🏃‍♀️", ["woman_running"]⟩, ⟨"🏃‍♂️", ["man_running"]⟩, ⟨"🏄‍♀️", ["woman_surfing"]⟩,
    ⟨"🏄‍♂️", ["man_surfing"]⟩, ⟨"🏊‍♀️", ["woman_swimming"]⟩, ⟨"🏊‍♂️", ["man_swimming"]⟩,
    ⟨"🏋️‍♀️", ["woman_lifting_weights"]⟩, ⟨"🏋️‍♂️", ["man_lifting_weights"]⟩,
    ⟨"🏌️‍♀️", ["woman_golfing"]⟩, ⟨"🏌️‍♂️", ["man_golfing"]⟩, ⟨"🏳️‍🌈", ["rainbow_flag"]⟩,
    ⟨"🏴‍☠️", ["pirate_flag"]⟩, ⟨"🐕‍🦺", ["service_dog"]⟩, ⟨"👀", ["eyes"]⟩, ⟨"👁", ["eye"]⟩,
    ⟨"👁️‍🗨️", ["eye_in_speech_bubble"]⟩, ⟨"👂", ["ear"]⟩, ⟨"👃", ["nose"]⟩, ⟨"👄", ["mouth", "lips"]⟩,
    ⟨"👅", ["tongue"]⟩, ⟨"👆", ["backhand_index_pointing_up", "point_up_2"]⟩,
    ⟨"👇", ["backhand_index_pointing_down", "point_down"]⟩,
    ⟨"👈", ["backhand_index_pointing_left", "point_left"]⟩,
    ⟨"👉", ["backhand_index_pointing_right", "point_right"]⟩,
    ⟨"👊", ["oncoming_fist", "facepunch", "punch"]⟩, ⟨"👋", ["waving_hand", "wave"]⟩,
    ⟨"👌", ["ok_hand"]⟩, ⟨"👍", ["thumbs_up", "+1", "thumbsup"]⟩,
    ⟨"👎", ["thumbs_down", "__1", "-1", "thumbsdown"]⟩, ⟨"👏", ["clapping_hands", "clap"]⟩,
    ⟨"👐", ["open_hands"]⟩, ⟨"👑", ["crown"]⟩, ⟨"👒", ["woman’s_hat", "womans_hat"]⟩,
    ⟨"👓", ["glasses", "eyeglasses"]⟩, ⟨"👔", ["necktie"]⟩, ⟨"👕", ["t-shirt", "shirt", "tshirt"]⟩,
    ⟨"👖", ["jeans"]⟩, ⟨"👗", ["dress"]⟩, ⟨"👘", ["kimono"]⟩, ⟨"👙", ["bikini"]⟩,
    ⟨"👚", ["woman’s_clothes", "womans_clothes"]⟩, ⟨"👛", ["purse"]⟩, ⟨"👜", ["handbag"]⟩,
    ⟨"👝", ["clutch_bag", "pouch"]⟩, ⟨"👞", ["man’s_shoe", "mans_shoe", "shoe"]⟩,
    ⟨"👟", ["running_shoe", "athletic_shoe"]⟩, ⟨"👠", ["high-heeled_shoe", "high_heel"]⟩,
    ⟨"👡", ["woman’s_sandal", "sandal"]⟩, ⟨"👢", ["woman’s_boot", "boot"]⟩, ⟨"👣", ["footprints"]⟩,
    ⟨"👤", ["bust_in_silhouette"]⟩, ⟨"👥", ["busts_in_silhouette"]⟩, ⟨"👦", ["boy"]⟩, ⟨"👧", ["girl"]⟩,
    ⟨"👨", ["man"]⟩, ⟨"👨‍⚕️", ["man_health_worker"]⟩, ⟨"👨‍⚖️", ["man_judge"]⟩,
    ⟨"👨‍✈️", ["man_pilot"]⟩, ⟨"👨‍❤️‍👨", ["couple_with_heart_man_man"]⟩,
    ⟨"👨‍❤️‍💋‍👨", ["kiss_man_man"]⟩, ⟨"👨‍🌾", ["man_farmer"]⟩, ⟨"👨‍🍳", ["man_cook"]⟩,
    ⟨"👨‍🎓", ["man_student"]⟩, ⟨"👨‍🎤", ["man_singer"]⟩, ⟨"👨‍🎨", ["man_artist"]⟩,
    ⟨"👨‍🏫", ["man_teacher"]⟩, ⟨"👨‍🏭", ["man_factory_worker"]⟩, ⟨"👨‍👦", ["family_man_boy"]⟩,
    ⟨"👨‍👦‍👦", ["family_man_boy_boy"]⟩, ⟨"👨‍👧", ["family_man_girl"]⟩,
    ⟨"👨‍👧‍👦", ["family_man_girl_boy"]⟩, ⟨"👨‍👧‍👧", ["family_man_girl_girl"]⟩,
    ⟨"👨‍👨‍👦", ["family_man_man_boy"]⟩, ⟨"👨‍👨‍👦‍👦", ["family_man_man_boy_boy"]⟩,
    ⟨"👨‍👨‍👧", ["family_man_man_girl"]⟩, ⟨"👨‍👨‍👧‍👦", ["family_man_man_girl_boy"]⟩,
    ⟨"👨‍👨‍👧‍👧", ["family_man_man_girl_girl"]⟩, ⟨"👨‍👩‍👦", ["family_man_woman_boy"]⟩,
    ⟨"👨‍👩‍👦‍👦", ["family_man_woman_boy_boy"]⟩, ⟨"👨‍👩‍👧", ["family_man_woman_girl"]⟩,
    ⟨"👨‍👩‍👧‍👦", ["family_man_woman_girl_boy"]⟩, ⟨"👨‍👩‍👧‍👧", ["family_man_woman_girl_girl"]⟩,
    ⟨"👨‍💻", ["man_technologist"]⟩, ⟨"👨‍💼", ["man_office_worker"]⟩, ⟨"👨‍🔧", ["man_mechanic"]⟩,
    ⟨"👨‍🔬", ["man_scientist"]⟩, ⟨"👨‍🚀", ["man_astronaut"]⟩, ⟨"👨‍🚒", ["man_firefighter"]⟩,
    ⟨"👨‍🦯", ["man_with_probing_cane"]⟩, ⟨"👨‍🦰", ["red-haired_man"]⟩, ⟨"👨‍🦱", ["curly-haired_man"]⟩,
    ⟨"👨‍🦲", ["bald_man"]⟩, ⟨"👨‍🦳", ["white-haired_man"]⟩, ⟨"👨‍🦼", ["man_in_motorized_wheelchair"]⟩,
    ⟨"👨‍🦽", ["man_in_manual_wheelchair"]⟩, ⟨"👩", ["woman"]⟩, ⟨"👩‍⚕️", ["woman_health_worker"]⟩,
    ⟨"👩‍⚖️", ["woman_judge"]⟩, ⟨"👩‍✈️", ["woman_pilot"]⟩,
    ⟨"👩‍❤️‍👨", ["couple_with_heart_woman_man"]⟩, ⟨"👩‍❤️‍👩", ["couple_with_heart_woman_woman"]⟩,
    ⟨"👩‍❤️‍💋‍👨", ["kiss_woman_man"]⟩, ⟨"👩‍❤️‍💋‍👩", ["kiss_woman_woman"]⟩, ⟨"👩‍🌾", ["woman_farmer"]⟩,
    ⟨"👩‍🍳", ["woman_cook"]⟩, ⟨"👩‍🎓", ["woman_student"]⟩, ⟨"👩‍🎤", ["woman_singer"]⟩,
    ⟨"👩‍🎨", ["woman_artist"]⟩, ⟨"👩‍🏫", ["woman_teacher"]⟩, ⟨"👩‍🏭", ["woman_factory_worker"]⟩,
    ⟨"👩‍👦", ["family_woman_boy"]⟩, ⟨"👩‍👦‍👦", ["family_woman_boy_boy"]⟩,
    ⟨"👩‍👧", ["family_woman_girl"]⟩, ⟨"👩‍👧‍👦", ["family_woman_girl_boy"]⟩,
    ⟨"👩‍👧‍👧", ["family_woman_girl_girl"]⟩, ⟨"👩‍👩‍👦", ["family_woman_woman_boy"]⟩,
    ⟨"👩‍👩‍👦‍👦", ["family_woman_woman_boy_boy"]⟩, ⟨"👩‍👩‍👧", ["family_woman_woman_girl"]⟩,
    ⟨"👩‍👩‍👧‍👦", ["family_woman_woman_girl_boy"]⟩, ⟨"👩‍👩‍👧‍👧", ["family_woman_woman_girl_girl"]⟩,
    ⟨"👩‍💻", ["woman_technologist"]⟩, ⟨"👩‍💼", ["woman_office_worker"]⟩, ⟨"👩‍🔧", ["woman_mechanic"]⟩,
    ⟨"👩‍🔬", ["woman_scientist"]⟩, ⟨"👩‍🚀", ["woman_astronaut"]⟩, ⟨"👩‍🚒", ["woman_firefighter"]⟩,
    ⟨"👩‍🦯", ["woman_with_probing_cane"]⟩, ⟨"👩‍🦰", ["red-haired_woman"]⟩,
    ⟨"👩‍🦱", ["curly-haired_woman"]⟩, ⟨"👩‍🦲", ["bald_woman"]⟩, ⟨"👩‍🦳", ["white-haired_woman"]⟩,
    ⟨"👩‍🦼", ["woman_in_motorized_wheelchair"]⟩, ⟨"👩‍🦽", ["woman_in_manual_wheelchair"]⟩,
    ⟨"👪", ["family"]⟩, ⟨"👫", ["man_and_woman_holding_hands", "couple"]⟩,
    ⟨"👬", ["two_men_holding_hands"]⟩, ⟨"👭", ["two_women_holding_hands"]⟩,
    ⟨"👮", ["police_officer", "cop"]⟩, ⟨"👮‍♀️", ["woman_police_officer"]⟩,
    ⟨"👮‍♂️", ["man_police_officer"]⟩, ⟨"👯", ["people_with_bunny_ears", "dancers"]⟩,
    ⟨"👯‍♀️", ["women_with_bunny_ears"]⟩, ⟨"👯‍♂️", ["men_with_bunny_ears"]⟩,
    ⟨"👰", ["bride_with_veil"]⟩, ⟨"👱", ["blond-haired_person", "person_with_blond_hair"]⟩,
    ⟨"👱‍♀️", ["blond-haired_woman"]⟩, ⟨"👱‍♂️", ["blond-haired_man"]⟩,
    ⟨"👲", ["man_with_chinese_cap", "man_with_gua_pi_mao"]⟩,
    ⟨"👳", ["person_wearing_turban", "man_with_turban"]⟩, ⟨"👳‍♀️", ["woman_wearing_turban"]⟩,
    ⟨"👳‍♂️", ["man_wearing_turban"]⟩, ⟨"👴", ["old_man", "older_man"]⟩,
    ⟨"👵", ["old_woman", "older_woman"]⟩, ⟨"👶", ["baby"]⟩, ⟨"👷", ["construction_worker"]⟩,
    ⟨"👷‍♀️", ["woman_construction_worker"]⟩, ⟨"👷‍♂️", ["man_construction_worker"]⟩,
    ⟨"👸", ["princess"]⟩, ⟨"👹", ["ogre", "japanese_ogre"]⟩, ⟨"👺", ["goblin", "japanese_goblin"]⟩,
    ⟨"👻", ["ghost"]⟩, ⟨"👼", ["baby_angel", "angel"]⟩, ⟨"👽", ["alien"]⟩,
    ⟨"👾", ["alien_monster", "space_invader"]⟩, ⟨"👿", ["angry_face_with_horns", "imp"]⟩,
    ⟨"💀", ["skull"]⟩, ⟨"💁", ["person_tipping_hand", "information_desk_person"]⟩,
    ⟨"💁‍♀️", ["woman_tipping_hand"]⟩, ⟨"💁‍♂️", ["man_tipping_hand"]⟩, ⟨"💂", ["guard", "guardsman"]⟩,
    ⟨"💂‍♀️", ["woman_guard"]⟩, ⟨"💂‍♂️", ["man_guard"]⟩, ⟨"💃", ["woman_dancing", "dancer"]⟩,
    ⟨"💄", ["lipstick"]⟩, ⟨"💅", ["nail_polish", "nail_care"]⟩,
    ⟨"💆", ["person_getting_massage", "massage"]⟩, ⟨"💆‍♀️", ["woman_getting_massage"]⟩,
    ⟨"💆‍♂️", ["man_getting_massage"]⟩, ⟨"💇", ["person_getting_haircut", "haircut"]⟩,
    ⟨"💇‍♀️", ["woman_getting_haircut"]⟩, ⟨"💇‍♂️", ["man_getting_haircut"]⟩,
    ⟨"🕵️‍♀️", ["woman_detective"]⟩, ⟨"🕵️‍♂️", ["man_detective"]⟩, ⟨"🙅‍♀️", ["woman_gesturing_no"]⟩,
    ⟨"🙅‍♂️", ["man_gesturing_no"]⟩, ⟨"🙆‍♀️", ["woman_gesturing_ok"]⟩,
    ⟨"🙆‍♂️", ["man_gesturing_ok"]⟩, ⟨"🙇‍♀️", ["woman_bowing"]⟩, ⟨"🙇‍♂️", ["man_bowing"]⟩,
    ⟨"🙋‍♀️", ["woman_raising_hand"]⟩, ⟨"🙋‍♂️", ["man_raising_hand"]⟩, ⟨"🙍‍♀️", ["woman_frowning"]⟩,
    ⟨"🙍‍♂️", ["man_frowning"]⟩, ⟨"🙎‍♀️", ["woman_pouting"]⟩, ⟨"🙎‍♂️", ["man_pouting"]⟩,
    ⟨"🚣‍♀️", ["woman_rowing_boat"]⟩, ⟨"🚣‍♂️", ["man_rowing_boat"]⟩, ⟨"🚴‍♀️", ["woman_biking"]⟩,
    ⟨"🚴‍♂️", ["man_biking"]⟩, ⟨"🚵‍♀️", ["woman_mountain_biking"]⟩,
    ⟨"🚵‍♂️", ["man_mountain_biking"]⟩, ⟨"🚶‍♀️", ["woman_walking"]⟩, ⟨"🚶‍♂️", ["man_walking"]⟩,
    ⟨"🤏", ["pinching_hand"]⟩, ⟨"🤘", ["sign_of_the_horns"]⟩, ⟨"🤙", ["call_me_hand"]⟩,
    ⟨"🤚", ["raised_back_of_hand"]⟩, ⟨"🤛", ["left-facing_fist"]⟩, ⟨"🤜", ["right-facing_fist"]⟩,
    ⟨"🤝", ["handshake"]⟩, ⟨"🤞", ["crossed_fingers"]⟩, ⟨"🤟", ["love-you_gesture"]⟩,
    ⟨"🤦", ["person_facepalming"]⟩, ⟨"🤦‍♀️", ["woman_facepalming"]⟩, ⟨"🤦‍♂️", ["man_facepalming"]⟩,
    ⟨"🤰", ["pregnant_woman"]⟩, ⟨"🤱", ["breast-feeding"]⟩, ⟨"🤲", ["palms_up_together"]⟩,
    ⟨"🤳", ["selfie"]⟩, ⟨"🤴", ["prince"]⟩, ⟨"🤵", ["man_in_tuxedo"]⟩, ⟨"🤶", ["mrs._claus"]⟩,
    ⟨"🤷", ["person_shrugging"]⟩, ⟨"🤷‍♀️", ["woman_shrugging"]⟩, ⟨"🤷‍♂️", ["man_shrugging"]⟩,
    ⟨"🤸", ["person_cartwheeling"]⟩, ⟨"🤸‍♀️", ["woman_cartwheeling"]⟩,
    ⟨"🤸‍♂️", ["man_cartwheeling"]⟩, ⟨"🤹", ["person_juggling"]⟩, ⟨"🤹‍♀️", ["woman_juggling"]⟩,
    ⟨"🤹‍♂️", ["man_juggling"]⟩, ⟨"🤺", ["person_fencing"]⟩, ⟨"🤼", ["people_wrestling"]⟩,
    ⟨"🤼‍♀️", ["women_wrestling"]⟩, ⟨"🤼‍♂️", ["men_wrestling"]⟩,
    ⟨"🤽", ["person_playing_water_polo"]⟩, ⟨"🤽‍♀️", ["woman_playing_water_polo"]⟩,
    ⟨"🤽‍♂️", ["man_playing_water_polo"]⟩, ⟨"🤾", ["person_playing_handball"]⟩,
    ⟨"🤾‍♀️", ["woman_playing_handball"]⟩, ⟨"🤾‍♂️", ["man_playing_handball"]⟩,
    ⟨"🤿", ["diving_mask"]⟩, ⟨"🦯", ["probing_cane"]⟩, ⟨"🦰", ["red_hair"]⟩, ⟨"🦱", ["curly_hair"]⟩,
    ⟨"🦲", ["bald"]⟩, ⟨"🦳", ["white_hair"]⟩, ⟨"🦴", ["bone"]⟩, ⟨"🦵", ["leg"]⟩, ⟨"🦶", ["foot"]⟩,
    ⟨"🦷", ["tooth"]⟩, ⟨"🦸", ["superhero"]⟩, ⟨"🦹", ["supervillain"]⟩, ⟨"🧍", ["person_standing"]⟩,
    ⟨"🧎", ["person_kneeling"]⟩, ⟨"🧏", ["deaf_person"]⟩, ⟨"🧐", ["face_with_monocle"]⟩,
    ⟨"🧑", ["adult"]⟩, ⟨"🧑‍🤝‍🧑", ["people_holding_hands"]⟩, ⟨"🧒", ["child"]⟩, ⟨"🧓", ["older_adult"]⟩,
    ⟨"🧔", ["bearded_person"]⟩, ⟨"🧕", ["woman_with_headscarf"]⟩, ⟨"🧖", ["person_in_steamy_room"]⟩,
    ⟨"🧖‍♀️", ["woman_in_steamy_room"]⟩, ⟨"🧖‍♂️", ["man_in_steamy_room"]⟩,
    ⟨"🧗", ["person_climbing"]⟩, ⟨"🧗‍♀️", ["woman_climbing"]⟩, ⟨"🧗‍♂️", ["man_climbing"]⟩,
    ⟨"🧘", ["person_in_lotus_position"]⟩, ⟨"🧘‍♀️", ["woman_in_lotus_position"]⟩,
    ⟨"🧘‍♂️", ["man_in_lotus_position"]⟩, ⟨"🧙", ["mage"]⟩, ⟨"🧙‍♀️", ["woman_mage"]⟩,
    ⟨"🧙‍♂️", ["man_mage"]⟩, ⟨"🧚", ["fairy"]⟩, ⟨"🧚‍♀️", ["woman_fairy"]⟩, ⟨"🧚‍♂️", ["man_fairy"]⟩,
    ⟨"🧛", ["vampire"]⟩, ⟨"🧛‍♀️", ["woman_vampire"]⟩, ⟨"🧛‍♂️", ["man_vampire"]⟩,
    ⟨"🧜", ["merperson"]⟩, ⟨"🧜‍♀️", ["mermaid"]⟩, ⟨"🧜‍♂️", ["merman"]⟩, ⟨"🧝", ["elf"]⟩,
    ⟨"🧝‍♀️", ["woman_elf"]⟩, ⟨"🧝‍♂️", ["man_elf"]⟩, ⟨"🧞", ["genie"]⟩, ⟨"🧞‍♀️", ["woman_genie"]⟩,
    ⟨"🧞‍♂️", ["man_genie"]⟩, ⟨"🧟", ["zombie"]⟩, ⟨"🧟‍♀️", ["woman_zombie"]⟩,
    ⟨"🧟‍♂️", ["man_zombie"]⟩ ]

end LetShadow.Emoji
