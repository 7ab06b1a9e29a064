/-
**Buttons, clocks and coloured shapes.**

* `signs` — the emoji of this kind, with their names.
-/

import LetShadow.Emoji.Entry

namespace LetShadow.Emoji

/-- Buttons, clocks and coloured shapes. -/
def signs : List Entry :=
  [
    ⟨"🔀", ["shuffle_tracks_button", "twisted_rightwards_arrows"]⟩,
    ⟨"🔁", ["repeat_button", "repeat"]⟩, ⟨"🔂", ["repeat_single_button", "repeat_one"]⟩,
    ⟨"🔃", ["clockwise_vertical_arrows", "arrows_clockwise"]⟩,
    ⟨"🔄", ["counterclockwise_arrows_button", "arrows_counterclockwise"]⟩,
    ⟨"🔅", ["dim_button", "low_brightness"]⟩, ⟨"🔆", ["bright_button", "high_brightness"]⟩,
    ⟨"🔇", ["muted_speaker", "mute"]⟩, ⟨"🔈", ["speaker_low_volume", "speaker"]⟩,
    ⟨"🔉", ["speaker_medium_volume", "sound"]⟩, ⟨"🔊", ["speaker_high_volume", "loud_sound"]⟩,
    ⟨"🔋", ["battery"]⟩, ⟨"🔌", ["electric_plug"]⟩, ⟨"🔍", ["magnifying_glass_tilted_left", "mag"]⟩,
    ⟨"🔎", ["magnifying_glass_tilted_right", "mag_right"]⟩,
    ⟨"🔏", ["locked_with_pen", "lock_with_ink_pen"]⟩,
    ⟨"🔐", ["locked_with_key", "closed_lock_with_key"]⟩, ⟨"🔑", ["key"]⟩, ⟨"🔒", ["locked", "lock"]⟩,
    ⟨"🔓", ["unlocked", "unlock"]⟩, ⟨"🔔", ["bell"]⟩, ⟨"🔕", ["bell_with_slash", "no_bell"]⟩,
    ⟨"🔖", ["bookmark"]⟩, ⟨"🔗", ["link"]⟩, ⟨"🔘", ["radio_button"]⟩, ⟨"🔙", ["back_arrow", "back"]⟩,
    ⟨"🔚", ["end_arrow", "end"]⟩, ⟨"🔛", ["on!_arrow", "on"]⟩, ⟨"🔜", ["soon_arrow", "soon"]⟩,
    ⟨"🔝", ["top_arrow", "top"]⟩, ⟨"🔞", ["no_one_under_eighteen", "underage"]⟩,
    ⟨"🔟", ["keycap_10", "ten"]⟩, ⟨"🔠", ["input_latin_uppercase", "capital_abcd"]⟩,
    ⟨"🔡", ["input_latin_lowercase", "abcd"]⟩, ⟨"🔢", ["input_numbers", "1234"]⟩,
    ⟨"🔣", ["input_symbols", "symbols"]⟩, ⟨"🔤", ["input_latin_letters", "abc"]⟩, ⟨"🔥", ["fire"]⟩,
    ⟨"🔦", ["flashlight"]⟩, ⟨"🔧", ["wrench"]⟩, ⟨"🔨", ["hammer"]⟩, ⟨"🔩", ["nut_and_bolt"]⟩,
    ⟨"🔪", ["kitchen_knife", "hocho", "knife"]⟩, ⟨"🔫", ["pistol", "gun"]⟩, ⟨"🔬", ["microscope"]⟩,
    ⟨"🔭", ["telescope"]⟩, ⟨"🔮", ["crystal_ball"]⟩,
    ⟨"🔯", ["dotted_six-pointed_star", "six_pointed_star"]⟩,
    ⟨"🔰", ["japanese_symbol_for_beginner", "beginner"]⟩, ⟨"🔱", ["trident_emblem", "trident"]⟩,
    ⟨"🔲", ["black_square_button"]⟩, ⟨"🔳", ["white_square_button"]⟩, ⟨"🔴", ["red_circle"]⟩,
    ⟨"🔵", ["blue_circle", "large_blue_circle"]⟩, ⟨"🔶", ["large_orange_diamond"]⟩,
    ⟨"🔷", ["large_blue_diamond"]⟩, ⟨"🔸", ["small_orange_diamond"]⟩, ⟨"🔹", ["small_blue_diamond"]⟩,
    ⟨"🔺", ["red_triangle_pointed_up", "small_red_triangle"]⟩,
    ⟨"🔻", ["red_triangle_pointed_down", "small_red_triangle_down"]⟩,
    ⟨"🔼", ["upwards_button", "arrow_up_small"]⟩, ⟨"🔽", ["downwards_button", "arrow_down_small"]⟩,
    ⟨"🕉", ["om", "om_symbol"]⟩, ⟨"🕊", ["dove", "dove_of_peace"]⟩, ⟨"🕋", ["kaaba"]⟩,
    ⟨"🕌", ["mosque"]⟩, ⟨"🕍", ["synagogue"]⟩, ⟨"🕎", ["menorah", "menorah_with_nine_branches"]⟩,
    ⟨"🕐", ["one_o’clock", "clock1"]⟩, ⟨"🕑", ["two_o’clock", "clock2"]⟩,
    ⟨"🕒", ["three_o’clock", "clock3"]⟩, ⟨"🕓", ["four_o’clock", "clock4"]⟩,
    ⟨"🕔", ["five_o’clock", "clock5"]⟩, ⟨"🕕", ["six_o’clock", "clock6"]⟩,
    ⟨"🕖", ["seven_o’clock", "clock7"]⟩, ⟨"🕗", ["eight_o’clock", "clock8"]⟩,
    ⟨"🕘", ["nine_o’clock", "clock9"]⟩, ⟨"🕙", ["ten_o’clock", "clock10"]⟩,
    ⟨"🕚", ["eleven_o’clock", "clock11"]⟩, ⟨"🕛", ["twelve_o’clock", "clock12"]⟩,
    ⟨"🕜", ["one-thirty", "clock130"]⟩, ⟨"🕝", ["two-thirty", "clock230"]⟩,
    ⟨"🕞", ["three-thirty", "clock330"]⟩, ⟨"🕟", ["four-thirty", "clock430"]⟩,
    ⟨"🕠", ["five-thirty", "clock530"]⟩, ⟨"🕡", ["six-thirty", "clock630"]⟩,
    ⟨"🕢", ["seven-thirty", "clock730"]⟩, ⟨"🕣", ["eight-thirty", "clock830"]⟩,
    ⟨"🕤", ["nine-thirty", "clock930"]⟩, ⟨"🕥", ["ten-thirty", "clock1030"]⟩,
    ⟨"🕦", ["eleven-thirty", "clock1130"]⟩, ⟨"🕧", ["twelve-thirty", "clock1230"]⟩, ⟨"🕯", ["candle"]⟩,
    ⟨"🕰", ["mantelpiece_clock"]⟩, ⟨"🕳", ["hole"]⟩,
    ⟨"🕴", ["man_in_suit_levitating", "man_in_business_suit_levitating"]⟩,
    ⟨"🕵", ["detective", "sleuth_or_spy"]⟩, ⟨"🕶", ["dark_sunglasses"]⟩, ⟨"🕷", ["spider"]⟩,
    ⟨"🕸", ["spider_web"]⟩, ⟨"🕹", ["joystick"]⟩, ⟨"🕺", ["man_dancing"]⟩,
    ⟨"🖇", ["linked_paperclips"]⟩, ⟨"🖊", ["pen", "lower_left_ballpoint_pen"]⟩,
    ⟨"🖋", ["fountain_pen", "lower_left_fountain_pen"]⟩,
    ⟨"🖌", ["paintbrush", "lower_left_paintbrush"]⟩, ⟨"🖍", ["crayon", "lower_left_crayon"]⟩,
    ⟨"🖐", ["hand_with_fingers_splayed", "raised_hand_with_fingers_splayed"]⟩,
    ⟨"🖕", ["middle_finger", "reversed_hand_with_middle_finger_extended"]⟩,
    ⟨"🖖", ["vulcan_salute", "raised_hand_with_part_between_middle_and_ring_fingers"]⟩,
    ⟨"🖤", ["black_heart"]⟩, ⟨"🖥", ["desktop_computer"]⟩, ⟨"🖨", ["printer"]⟩,
    ⟨"🖱", ["computer_mouse", "three_button_mouse"]⟩, ⟨"🖲", ["trackball"]⟩,
    ⟨"🖼", ["framed_picture", "frame_with_picture"]⟩, ⟨"🗂", ["card_index_dividers"]⟩,
    ⟨"🗃", ["card_file_box"]⟩, ⟨"🗄", ["file_cabinet"]⟩, ⟨"🗑", ["wastebasket"]⟩,
    ⟨"🗒", ["spiral_notepad", "spiral_note_pad"]⟩, ⟨"🗓", ["spiral_calendar", "spiral_calendar_pad"]⟩,
    ⟨"🗜", ["clamp", "compression"]⟩, ⟨"🗝", ["old_key"]⟩,
    ⟨"🗞", ["rolled-up_newspaper", "rolled__up_newspaper"]⟩, ⟨"🗡", ["dagger", "dagger_knife"]⟩,
    ⟨"🗣", ["speaking_head", "speaking_head_in_silhouette"]⟩, ⟨"🗨", ["left_speech_bubble"]⟩,
    ⟨"🗯", ["right_anger_bubble"]⟩, ⟨"🗳", ["ballot_box_with_ballot"]⟩, ⟨"🗺", ["world_map"]⟩,
    ⟨"🗻", ["mount_fuji"]⟩, ⟨"🗼", ["tokyo_tower"]⟩, ⟨"🗽", ["statue_of_liberty"]⟩,
    ⟨"🗾", ["japan", "map_of_japan"]⟩, ⟨"🗿", ["moai", "moyai"]⟩, ⟨"🟠", ["orange_circle"]⟩,
    ⟨"🟡", ["yellow_circle"]⟩, ⟨"🟢", ["green_circle"]⟩, ⟨"🟣", ["purple_circle"]⟩,
    ⟨"🟤", ["brown_circle"]⟩, ⟨"🟥", ["red_square"]⟩, ⟨"🟦", ["blue_square"]⟩,
    ⟨"🟧", ["orange_square"]⟩, ⟨"🟨", ["yellow_square"]⟩, ⟨"🟩", ["green_square"]⟩,
    ⟨"🟪", ["purple_square"]⟩, ⟨"🟫", ["brown_square"]⟩, ⟨"🤍", ["white_heart"]⟩,
    ⟨"🤎", ["brown_heart"]⟩ ]

end LetShadow.Emoji
