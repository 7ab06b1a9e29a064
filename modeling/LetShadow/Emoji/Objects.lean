/-
**Objects of use.**

* `objects` — the emoji of this kind, with their names.
-/

import LetShadow.Emoji.Entry

namespace LetShadow.Emoji

/-- Objects of use. -/
def objects : List Entry :=
  [
    ⟨"💈", ["barber_pole", "barber"]⟩, ⟨"💉", ["syringe"]⟩, ⟨"💊", ["pill"]⟩,
    ⟨"💋", ["kiss", "kiss_mark"]⟩, ⟨"💌", ["love_letter"]⟩, ⟨"💍", ["ring"]⟩,
    ⟨"💎", ["gem_stone", "gem"]⟩, ⟨"💏", ["couplekiss"]⟩, ⟨"💐", ["bouquet"]⟩,
    ⟨"💑", ["couple_with_heart"]⟩, ⟨"💒", ["wedding"]⟩, ⟨"💓", ["beating_heart", "heartbeat"]⟩,
    ⟨"💔", ["broken_heart"]⟩, ⟨"💕", ["two_hearts"]⟩, ⟨"💖", ["sparkling_heart"]⟩,
    ⟨"💗", ["growing_heart", "heartpulse"]⟩, ⟨"💘", ["heart_with_arrow", "cupid"]⟩,
    ⟨"💙", ["blue_heart"]⟩, ⟨"💚", ["green_heart"]⟩, ⟨"💛", ["yellow_heart"]⟩, ⟨"💜", ["purple_heart"]⟩,
    ⟨"💝", ["heart_with_ribbon", "gift_heart"]⟩, ⟨"💞", ["revolving_hearts"]⟩,
    ⟨"💟", ["heart_decoration"]⟩, ⟨"💠", ["diamond_with_a_dot", "diamond_shape_with_a_dot_inside"]⟩,
    ⟨"💡", ["light_bulb", "bulb"]⟩, ⟨"💢", ["anger_symbol", "anger"]⟩, ⟨"💣", ["bomb"]⟩,
    ⟨"💤", ["zzz"]⟩, ⟨"💥", ["collision", "boom"]⟩, ⟨"💦", ["sweat_droplets", "sweat_drops"]⟩,
    ⟨"💧", ["droplet"]⟩, ⟨"💨", ["dashing_away", "dash"]⟩,
    ⟨"💩", ["pile_of_poo", "hankey", "poop", "shit"]⟩, ⟨"💪", ["flexed_biceps", "muscle"]⟩,
    ⟨"💫", ["dizzy"]⟩, ⟨"💬", ["speech_balloon"]⟩, ⟨"💭", ["thought_balloon"]⟩,
    ⟨"💮", ["white_flower"]⟩, ⟨"💯", ["hundred_points", "100"]⟩, ⟨"💰", ["money_bag", "moneybag"]⟩,
    ⟨"💱", ["currency_exchange"]⟩, ⟨"💲", ["heavy_dollar_sign"]⟩, ⟨"💳", ["credit_card"]⟩,
    ⟨"💴", ["yen_banknote", "yen"]⟩, ⟨"💵", ["dollar_banknote", "dollar"]⟩,
    ⟨"💶", ["euro_banknote", "euro"]⟩, ⟨"💷", ["pound_banknote", "pound"]⟩,
    ⟨"💸", ["money_with_wings"]⟩, ⟨"💹", ["chart_increasing_with_yen", "chart"]⟩, ⟨"💺", ["seat"]⟩,
    ⟨"💻", ["laptop_computer", "computer"]⟩, ⟨"💼", ["briefcase"]⟩,
    ⟨"💽", ["computer_disk", "minidisc"]⟩, ⟨"💾", ["floppy_disk"]⟩, ⟨"💿", ["optical_disk", "cd"]⟩,
    ⟨"📀", ["dvd"]⟩, ⟨"📁", ["file_folder"]⟩, ⟨"📂", ["open_file_folder"]⟩, ⟨"📃", ["page_with_curl"]⟩,
    ⟨"📄", ["page_facing_up"]⟩, ⟨"📅", ["date"]⟩, ⟨"📆", ["calendar", "tear-off_calendar"]⟩,
    ⟨"📇", ["card_index"]⟩, ⟨"📈", ["chart_increasing", "chart_with_upwards_trend"]⟩,
    ⟨"📉", ["chart_decreasing", "chart_with_downwards_trend"]⟩, ⟨"📊", ["bar_chart"]⟩,
    ⟨"📋", ["clipboard"]⟩, ⟨"📌", ["pushpin"]⟩, ⟨"📍", ["round_pushpin"]⟩, ⟨"📎", ["paperclip"]⟩,
    ⟨"📏", ["straight_ruler"]⟩, ⟨"📐", ["triangular_ruler"]⟩, ⟨"📑", ["bookmark_tabs"]⟩,
    ⟨"📒", ["ledger"]⟩, ⟨"📓", ["notebook"]⟩, ⟨"📔", ["notebook_with_decorative_cover"]⟩,
    ⟨"📕", ["closed_book"]⟩, ⟨"📖", ["open_book", "book"]⟩, ⟨"📗", ["green_book"]⟩,
    ⟨"📘", ["blue_book"]⟩, ⟨"📙", ["orange_book"]⟩, ⟨"📚", ["books"]⟩, ⟨"📛", ["name_badge"]⟩,
    ⟨"📜", ["scroll"]⟩, ⟨"📝", ["memo", "pencil"]⟩, ⟨"📞", ["telephone_receiver"]⟩, ⟨"📟", ["pager"]⟩,
    ⟨"📠", ["fax_machine", "fax"]⟩, ⟨"📡", ["satellite", "satellite_antenna"]⟩,
    ⟨"📢", ["loudspeaker"]⟩, ⟨"📣", ["megaphone", "mega"]⟩, ⟨"📤", ["outbox_tray"]⟩,
    ⟨"📥", ["inbox_tray"]⟩, ⟨"📦", ["package"]⟩, ⟨"📧", ["e-mail", "e__mail"]⟩,
    ⟨"📨", ["incoming_envelope"]⟩, ⟨"📩", ["envelope_with_arrow"]⟩,
    ⟨"📪", ["closed_mailbox_with_lowered_flag", "mailbox_closed"]⟩,
    ⟨"📫", ["closed_mailbox_with_raised_flag", "mailbox"]⟩,
    ⟨"📬", ["open_mailbox_with_raised_flag", "mailbox_with_mail"]⟩,
    ⟨"📭", ["open_mailbox_with_lowered_flag", "mailbox_with_no_mail"]⟩, ⟨"📮", ["postbox"]⟩,
    ⟨"📯", ["postal_horn"]⟩, ⟨"📰", ["newspaper"]⟩, ⟨"📱", ["mobile_phone", "iphone"]⟩,
    ⟨"📲", ["mobile_phone_with_arrow", "calling"]⟩, ⟨"📳", ["vibration_mode"]⟩,
    ⟨"📴", ["mobile_phone_off"]⟩, ⟨"📵", ["no_mobile_phones"]⟩,
    ⟨"📶", ["antenna_bars", "signal_strength"]⟩, ⟨"📷", ["camera"]⟩, ⟨"📸", ["camera_with_flash"]⟩,
    ⟨"📹", ["video_camera"]⟩, ⟨"📺", ["television", "tv"]⟩, ⟨"📻", ["radio"]⟩,
    ⟨"📼", ["videocassette", "vhs"]⟩, ⟨"📽", ["film_projector"]⟩, ⟨"📿", ["prayer_beads"]⟩,
    ⟨"🥻", ["sari"]⟩, ⟨"🥼", ["lab_coat"]⟩, ⟨"🥽", ["goggles"]⟩, ⟨"🥾", ["hiking_boot"]⟩,
    ⟨"🥿", ["flat_shoe"]⟩, ⟨"🦺", ["safety_vest"]⟩, ⟨"🦻", ["ear_with_hearing_aid"]⟩,
    ⟨"🦼", ["motorized_wheelchair"]⟩, ⟨"🦽", ["manual_wheelchair"]⟩, ⟨"🦾", ["mechanical_arm"]⟩,
    ⟨"🦿", ["mechanical_leg"]⟩, ⟨"🧠", ["brain"]⟩, ⟨"🧡", ["orange_heart"]⟩, ⟨"🧢", ["billed_cap"]⟩,
    ⟨"🧣", ["scarf"]⟩, ⟨"🧤", ["gloves"]⟩, ⟨"🧥", ["coat"]⟩, ⟨"🧦", ["socks"]⟩, ⟨"🧧", ["red_envelope"]⟩,
    ⟨"🧨", ["firecracker"]⟩, ⟨"🧩", ["jigsaw"]⟩, ⟨"🧪", ["test_tube"]⟩, ⟨"🧫", ["petri_dish"]⟩,
    ⟨"🧬", ["dna"]⟩, ⟨"🧭", ["compass"]⟩, ⟨"🧮", ["abacus"]⟩, ⟨"🧯", ["fire_extinguisher"]⟩,
    ⟨"🧰", ["toolbox"]⟩, ⟨"🧱", ["brick"]⟩, ⟨"🧲", ["magnet"]⟩, ⟨"🧳", ["luggage"]⟩,
    ⟨"🧴", ["lotion_bottle"]⟩, ⟨"🧵", ["thread"]⟩, ⟨"🧶", ["yarn"]⟩, ⟨"🧷", ["safety_pin"]⟩,
    ⟨"🧸", ["teddy_bear"]⟩, ⟨"🧹", ["broom"]⟩, ⟨"🧺", ["basket"]⟩, ⟨"🧻", ["roll_of_paper"]⟩,
    ⟨"🧼", ["soap"]⟩, ⟨"🧽", ["sponge"]⟩, ⟨"🧾", ["receipt"]⟩, ⟨"🧿", ["nazar_amulet"]⟩,
    ⟨"🩰", ["ballet_shoes"]⟩, ⟨"🩱", ["one-piece_swimsuit"]⟩, ⟨"🩲", ["briefs"]⟩, ⟨"🩳", ["shorts"]⟩,
    ⟨"🩸", ["drop_of_blood"]⟩, ⟨"🩹", ["adhesive_bandage"]⟩, ⟨"🩺", ["stethoscope"]⟩, ⟨"🪀", ["yo-yo"]⟩,
    ⟨"🪁", ["kite"]⟩, ⟨"🪐", ["ringed_planet"]⟩, ⟨"🪑", ["chair"]⟩, ⟨"🪒", ["razor"]⟩, ⟨"🪓", ["axe"]⟩,
    ⟨"🪔", ["diya_lamp"]⟩, ⟨"🪕", ["banjo"]⟩ ]

end LetShadow.Emoji
