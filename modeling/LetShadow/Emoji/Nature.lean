/-
**Weather, plants and animals.**

* `nature` — the emoji of this kind, with their names.
-/

import LetShadow.Emoji.Entry

namespace LetShadow.Emoji

/-- Weather, plants and animals. -/
def nature : List Entry :=
  [
    ⟨"🌀", ["cyclone"]⟩, ⟨"🌁", ["foggy"]⟩, ⟨"🌂", ["closed_umbrella"]⟩, ⟨"🌃", ["night_with_stars"]⟩,
    ⟨"🌄", ["sunrise_over_mountains"]⟩, ⟨"🌅", ["sunrise"]⟩,
    ⟨"🌆", ["cityscape_at_dusk", "city_sunset"]⟩, ⟨"🌇", ["sunset", "city_sunrise"]⟩,
    ⟨"🌈", ["rainbow"]⟩, ⟨"🌉", ["bridge_at_night"]⟩, ⟨"🌊", ["water_wave", "ocean"]⟩,
    ⟨"🌋", ["volcano"]⟩, ⟨"🌌", ["milky_way"]⟩,
    ⟨"🌍", ["globe_showing_europe-africa", "earth_africa"]⟩,
    ⟨"🌎", ["globe_showing_americas", "earth_americas"]⟩,
    ⟨"🌏", ["globe_showing_asia-australia", "earth_asia"]⟩, ⟨"🌐", ["globe_with_meridians"]⟩,
    ⟨"🌑", ["new_moon"]⟩, ⟨"🌒", ["waxing_crescent_moon"]⟩, ⟨"🌓", ["first_quarter_moon"]⟩,
    ⟨"🌔", ["waxing_gibbous_moon", "moon"]⟩, ⟨"🌕", ["full_moon"]⟩, ⟨"🌖", ["waning_gibbous_moon"]⟩,
    ⟨"🌗", ["last_quarter_moon"]⟩, ⟨"🌘", ["waning_crescent_moon"]⟩, ⟨"🌙", ["crescent_moon"]⟩,
    ⟨"🌚", ["new_moon_face", "new_moon_with_face"]⟩,
    ⟨"🌛", ["first_quarter_moon_face", "first_quarter_moon_with_face"]⟩,
    ⟨"🌜", ["last_quarter_moon_face", "last_quarter_moon_with_face"]⟩,
    ⟨"🌝", ["full_moon_face", "full_moon_with_face"]⟩, ⟨"🌞", ["sun_with_face"]⟩,
    ⟨"🌟", ["glowing_star", "star2"]⟩, ⟨"🌠", ["shooting_star", "stars"]⟩, ⟨"🌡", ["thermometer"]⟩,
    ⟨"🌤", ["sun_behind_small_cloud", "white_sun_with_small_cloud"]⟩,
    ⟨"🌥", ["sun_behind_large_cloud", "white_sun_behind_cloud"]⟩,
    ⟨"🌦", ["sun_behind_rain_cloud", "white_sun_behind_cloud_with_rain"]⟩,
    ⟨"🌧", ["cloud_with_rain"]⟩, ⟨"🌨", ["cloud_with_snow"]⟩, ⟨"🌩", ["cloud_with_lightning"]⟩,
    ⟨"🌪", ["tornado", "cloud_with_tornado"]⟩, ⟨"🌫", ["fog"]⟩,
    ⟨"🌬", ["wind_face", "wind_blowing_face"]⟩, ⟨"🌰", ["chestnut"]⟩, ⟨"🌱", ["seedling"]⟩,
    ⟨"🌲", ["evergreen_tree"]⟩, ⟨"🌳", ["deciduous_tree"]⟩, ⟨"🌴", ["palm_tree"]⟩, ⟨"🌵", ["cactus"]⟩,
    ⟨"🌶", ["hot_pepper"]⟩, ⟨"🌷", ["tulip"]⟩, ⟨"🌸", ["cherry_blossom"]⟩, ⟨"🌹", ["rose"]⟩,
    ⟨"🌺", ["hibiscus"]⟩, ⟨"🌻", ["sunflower"]⟩, ⟨"🌼", ["blossom"]⟩, ⟨"🌽", ["ear_of_corn", "corn"]⟩,
    ⟨"🌾", ["sheaf_of_rice", "ear_of_rice"]⟩, ⟨"🌿", ["herb"]⟩, ⟨"🍀", ["four_leaf_clover"]⟩,
    ⟨"🍁", ["maple_leaf"]⟩, ⟨"🍂", ["fallen_leaf"]⟩, ⟨"🍃", ["leaf_fluttering_in_wind", "leaves"]⟩,
    ⟨"🍄", ["mushroom"]⟩, ⟨"🐀", ["rat"]⟩, ⟨"🐁", ["mouse2"]⟩, ⟨"🐂", ["ox"]⟩, ⟨"🐃", ["water_buffalo"]⟩,
    ⟨"🐄", ["cow2"]⟩, ⟨"🐅", ["tiger2"]⟩, ⟨"🐆", ["leopard"]⟩, ⟨"🐇", ["rabbit2"]⟩, ⟨"🐈", ["cat2"]⟩,
    ⟨"🐉", ["dragon"]⟩, ⟨"🐊", ["crocodile"]⟩, ⟨"🐋", ["whale2"]⟩, ⟨"🐌", ["snail"]⟩, ⟨"🐍", ["snake"]⟩,
    ⟨"🐎", ["racehorse"]⟩, ⟨"🐏", ["ram"]⟩, ⟨"🐐", ["goat"]⟩, ⟨"🐑", ["ewe", "sheep"]⟩,
    ⟨"🐒", ["monkey"]⟩, ⟨"🐓", ["rooster"]⟩, ⟨"🐔", ["chicken"]⟩, ⟨"🐕", ["dog2"]⟩, ⟨"🐖", ["pig2"]⟩,
    ⟨"🐗", ["boar"]⟩, ⟨"🐘", ["elephant"]⟩, ⟨"🐙", ["octopus"]⟩, ⟨"🐚", ["spiral_shell", "shell"]⟩,
    ⟨"🐛", ["bug"]⟩, ⟨"🐜", ["ant"]⟩, ⟨"🐝", ["honeybee", "bee"]⟩, ⟨"🐞", ["lady_beetle", "beetle"]⟩,
    ⟨"🐟", ["fish"]⟩, ⟨"🐠", ["tropical_fish"]⟩, ⟨"🐡", ["blowfish"]⟩, ⟨"🐢", ["turtle"]⟩,
    ⟨"🐣", ["hatching_chick"]⟩, ⟨"🐤", ["baby_chick"]⟩,
    ⟨"🐥", ["front-facing_baby_chick", "hatched_chick"]⟩, ⟨"🐦", ["bird"]⟩, ⟨"🐧", ["penguin"]⟩,
    ⟨"🐨", ["koala"]⟩, ⟨"🐩", ["poodle"]⟩, ⟨"🐪", ["dromedary_camel"]⟩,
    ⟨"🐫", ["camel", "two-hump_camel"]⟩, ⟨"🐬", ["dolphin", "flipper"]⟩,
    ⟨"🐭", ["mouse", "mouse_face"]⟩, ⟨"🐮", ["cow", "cow_face"]⟩, ⟨"🐯", ["tiger", "tiger_face"]⟩,
    ⟨"🐰", ["rabbit", "rabbit_face"]⟩, ⟨"🐱", ["cat", "cat_face"]⟩, ⟨"🐲", ["dragon_face"]⟩,
    ⟨"🐳", ["spouting_whale", "whale"]⟩, ⟨"🐴", ["horse", "horse_face"]⟩, ⟨"🐵", ["monkey_face"]⟩,
    ⟨"🐶", ["dog", "dog_face"]⟩, ⟨"🐷", ["pig", "pig_face"]⟩, ⟨"🐸", ["frog_face", "frog"]⟩,
    ⟨"🐹", ["hamster_face", "hamster"]⟩, ⟨"🐺", ["wolf_face", "wolf"]⟩, ⟨"🐻", ["bear_face", "bear"]⟩,
    ⟨"🐼", ["panda_face"]⟩, ⟨"🐽", ["pig_nose"]⟩, ⟨"🐾", ["paw_prints", "feet"]⟩, ⟨"🐿", ["chipmunk"]⟩,
    ⟨"🦀", ["crab"]⟩, ⟨"🦁", ["lion_face"]⟩, ⟨"🦂", ["scorpion"]⟩, ⟨"🦃", ["turkey"]⟩,
    ⟨"🦄", ["unicorn_face"]⟩, ⟨"🦅", ["eagle"]⟩, ⟨"🦆", ["duck"]⟩, ⟨"🦇", ["bat"]⟩, ⟨"🦈", ["shark"]⟩,
    ⟨"🦉", ["owl"]⟩, ⟨"🦊", ["fox_face"]⟩, ⟨"🦋", ["butterfly"]⟩, ⟨"🦌", ["deer"]⟩, ⟨"🦍", ["gorilla"]⟩,
    ⟨"🦎", ["lizard"]⟩, ⟨"🦏", ["rhinoceros"]⟩, ⟨"🦐", ["shrimp"]⟩, ⟨"🦑", ["squid"]⟩,
    ⟨"🦒", ["giraffe"]⟩, ⟨"🦓", ["zebra"]⟩, ⟨"🦔", ["hedgehog"]⟩, ⟨"🦕", ["sauropod"]⟩,
    ⟨"🦖", ["t-rex"]⟩, ⟨"🦗", ["cricket"]⟩, ⟨"🦘", ["kangaroo"]⟩, ⟨"🦙", ["llama"]⟩, ⟨"🦚", ["peacock"]⟩,
    ⟨"🦛", ["hippopotamus"]⟩, ⟨"🦜", ["parrot"]⟩, ⟨"🦝", ["raccoon"]⟩, ⟨"🦞", ["lobster"]⟩,
    ⟨"🦟", ["mosquito"]⟩, ⟨"🦠", ["microbe"]⟩, ⟨"🦡", ["badger"]⟩, ⟨"🦢", ["swan"]⟩, ⟨"🦥", ["sloth"]⟩,
    ⟨"🦦", ["otter"]⟩, ⟨"🦧", ["orangutan"]⟩, ⟨"🦨", ["skunk"]⟩, ⟨"🦩", ["flamingo"]⟩,
    ⟨"🦪", ["oyster"]⟩, ⟨"🦮", ["guide_dog"]⟩ ]

end LetShadow.Emoji
