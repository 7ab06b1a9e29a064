/-
**Celebrations, arts, sports and places to see.**

* `activities` — the emoji of this kind, with their names.
-/

import LetShadow.Emoji.Entry

namespace LetShadow.Emoji

/-- Celebrations, arts, sports and places to see. -/
def activities : List Entry :=
  [
    ⟨"🎀", ["ribbon"]⟩, ⟨"🎁", ["wrapped_gift", "gift"]⟩, ⟨"🎂", ["birthday_cake", "birthday"]⟩,
    ⟨"🎃", ["jack-o-lantern", "jack_o_lantern"]⟩, ⟨"🎄", ["christmas_tree"]⟩,
    ⟨"🎅", ["santa_claus", "santa"]⟩, ⟨"🎆", ["fireworks"]⟩, ⟨"🎇", ["sparkler"]⟩, ⟨"🎈", ["balloon"]⟩,
    ⟨"🎉", ["party_popper", "tada"]⟩, ⟨"🎊", ["confetti_ball"]⟩, ⟨"🎋", ["tanabata_tree"]⟩,
    ⟨"🎌", ["crossed_flags"]⟩, ⟨"🎍", ["pine_decoration", "bamboo"]⟩,
    ⟨"🎎", ["japanese_dolls", "dolls"]⟩, ⟨"🎏", ["carp_streamer", "flags"]⟩, ⟨"🎐", ["wind_chime"]⟩,
    ⟨"🎑", ["moon_viewing_ceremony", "rice_scene"]⟩, ⟨"🎒", ["school_backpack", "school_satchel"]⟩,
    ⟨"🎓", ["graduation_cap", "mortar_board"]⟩, ⟨"🎖", ["military_medal"]⟩,
    ⟨"🎗", ["reminder_ribbon"]⟩, ⟨"🎙", ["studio_microphone"]⟩, ⟨"🎚", ["level_slider"]⟩,
    ⟨"🎛", ["control_knobs"]⟩, ⟨"🎞", ["film_frames"]⟩, ⟨"🎟", ["admission_tickets"]⟩,
    ⟨"🎠", ["carousel_horse"]⟩, ⟨"🎡", ["ferris_wheel"]⟩, ⟨"🎢", ["roller_coaster"]⟩,
    ⟨"🎣", ["fishing_pole", "fishing_pole_and_fish"]⟩, ⟨"🎤", ["microphone"]⟩,
    ⟨"🎥", ["movie_camera"]⟩, ⟨"🎦", ["cinema"]⟩, ⟨"🎧", ["headphone", "headphones"]⟩,
    ⟨"🎨", ["artist_palette", "art"]⟩, ⟨"🎩", ["top_hat", "tophat"]⟩, ⟨"🎪", ["circus_tent"]⟩,
    ⟨"🎫", ["ticket"]⟩, ⟨"🎬", ["clapper_board", "clapper"]⟩, ⟨"🎭", ["performing_arts"]⟩,
    ⟨"🎮", ["video_game"]⟩, ⟨"🎯", ["direct_hit", "dart"]⟩, ⟨"🎰", ["slot_machine"]⟩,
    ⟨"🎱", ["pool_8_ball", "8ball"]⟩, ⟨"🎲", ["game_die"]⟩, ⟨"🎳", ["bowling"]⟩,
    ⟨"🎴", ["flower_playing_cards"]⟩, ⟨"🎵", ["musical_note"]⟩, ⟨"🎶", ["musical_notes", "notes"]⟩,
    ⟨"🎷", ["saxophone"]⟩, ⟨"🎸", ["guitar"]⟩, ⟨"🎹", ["musical_keyboard"]⟩, ⟨"🎺", ["trumpet"]⟩,
    ⟨"🎻", ["violin"]⟩, ⟨"🎼", ["musical_score"]⟩,
    ⟨"🎽", ["running_shirt", "running_shirt_with_sash"]⟩, ⟨"🎾", ["tennis"]⟩, ⟨"🎿", ["skis", "ski"]⟩,
    ⟨"🏀", ["basketball"]⟩, ⟨"🏁", ["chequered_flag", "checkered_flag"]⟩, ⟨"🏂", ["snowboarder"]⟩,
    ⟨"🏃", ["person_running", "runner", "running"]⟩, ⟨"🏄", ["person_surfing", "surfer"]⟩,
    ⟨"🏅", ["sports_medal"]⟩, ⟨"🏆", ["trophy"]⟩, ⟨"🏇", ["horse_racing"]⟩,
    ⟨"🏈", ["american_football", "football"]⟩, ⟨"🏉", ["rugby_football"]⟩,
    ⟨"🏊", ["person_swimming", "swimmer"]⟩, ⟨"🏋", ["person_lifting_weights", "weight_lifter"]⟩,
    ⟨"🏌", ["person_golfing", "golfer"]⟩, ⟨"🏍", ["motorcycle", "racing_motorcycle"]⟩,
    ⟨"🏎", ["racing_car"]⟩, ⟨"🏏", ["cricket_game", "cricket_bat_and_ball"]⟩, ⟨"🏐", ["volleyball"]⟩,
    ⟨"🏑", ["field_hockey", "field_hockey_stick_and_ball"]⟩,
    ⟨"🏒", ["ice_hockey", "ice_hockey_stick_and_puck"]⟩,
    ⟨"🏓", ["ping_pong", "table_tennis_paddle_and_ball"]⟩,
    ⟨"🏔", ["snow-capped_mountain", "snow_capped_mountain"]⟩, ⟨"🏕", ["camping"]⟩,
    ⟨"🏖", ["beach_with_umbrella"]⟩, ⟨"🏗", ["building_construction"]⟩,
    ⟨"🏘", ["houses", "house_buildings"]⟩, ⟨"🏙", ["cityscape"]⟩,
    ⟨"🏚", ["derelict_house", "derelict_house_building"]⟩, ⟨"🏛", ["classical_building"]⟩,
    ⟨"🏜", ["desert"]⟩, ⟨"🏝", ["desert_island"]⟩, ⟨"🏞", ["national_park"]⟩, ⟨"🏟", ["stadium"]⟩,
    ⟨"🏠", ["house"]⟩, ⟨"🏡", ["house_with_garden"]⟩, ⟨"🏢", ["office_building", "office"]⟩,
    ⟨"🏣", ["japanese_post_office", "post_office"]⟩, ⟨"🏤", ["european_post_office"]⟩,
    ⟨"🏥", ["hospital"]⟩, ⟨"🏦", ["bank"]⟩, ⟨"🏧", ["atm_sign", "atm"]⟩, ⟨"🏨", ["hotel"]⟩,
    ⟨"🏩", ["love_hotel"]⟩, ⟨"🏪", ["convenience_store"]⟩, ⟨"🏫", ["school"]⟩,
    ⟨"🏬", ["department_store"]⟩, ⟨"🏭", ["factory"]⟩,
    ⟨"🏮", ["red_paper_lantern", "izakaya_lantern", "lantern"]⟩, ⟨"🏯", ["japanese_castle"]⟩,
    ⟨"🏰", ["castle", "european_castle"]⟩, ⟨"🏳", ["white_flag", "waving_white_flag"]⟩,
    ⟨"🏴", ["black_flag", "waving_black_flag"]⟩, ⟨"🏴󠁧󠁢󠁥󠁮󠁧󠁿", ["england"]⟩, ⟨"🏴󠁧󠁢󠁳󠁣󠁴󠁿", ["scotland"]⟩,
    ⟨"🏴󠁧󠁢󠁷󠁬󠁳󠁿", ["wales"]⟩, ⟨"🏵", ["rosette"]⟩, ⟨"🏷", ["label"]⟩,
    ⟨"🏸", ["badminton", "badminton_racquet_and_shuttlecock"]⟩, ⟨"🏹", ["bow_and_arrow"]⟩,
    ⟨"🏺", ["amphora"]⟩, ⟨"🏻", ["light_skin_tone", "emoji_modifier_fitzpatrick_type__1__2"]⟩,
    ⟨"🏼", ["medium_light_skin_tone", "emoji_modifier_fitzpatrick_type__3"]⟩,
    ⟨"🏽", ["medium_skin_tone", "emoji_modifier_fitzpatrick_type__4"]⟩,
    ⟨"🏾", ["medium_dark_skin_tone", "emoji_modifier_fitzpatrick_type__5"]⟩,
    ⟨"🏿", ["dark_skin_tone", "emoji_modifier_fitzpatrick_type__6"]⟩, ⟨"🥀", ["wilted_flower"]⟩,
    ⟨"🥁", ["drum"]⟩, ⟨"🥂", ["clinking_glasses"]⟩, ⟨"🥃", ["tumbler_glass"]⟩, ⟨"🥄", ["spoon"]⟩,
    ⟨"🥅", ["goal_net"]⟩, ⟨"🥇", ["1st_place_medal"]⟩, ⟨"🥈", ["2nd_place_medal"]⟩,
    ⟨"🥉", ["3rd_place_medal"]⟩, ⟨"🥊", ["boxing_glove"]⟩, ⟨"🥋", ["martial_arts_uniform"]⟩,
    ⟨"🥌", ["curling_stone"]⟩, ⟨"🥍", ["lacrosse"]⟩, ⟨"🥎", ["softball"]⟩, ⟨"🥏", ["flying_disc"]⟩ ]

end LetShadow.Emoji
