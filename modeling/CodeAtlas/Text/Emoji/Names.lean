namespace CodeAtlas.Text.Emoji

def toned : List String := [
  "adult =1f9d1 baby =1f476 baby_angel =1f47c backhand_index_pointing_down =1f447",
  "backhand_index_pointing_left =1f448 backhand_index_pointing_right =1f449",
  "backhand_index_pointing_up =1f446 bearded_person =1f9d4",
  "blond-haired_man =1f471.200d.2642.fe0f blond-haired_person =1f471",
  "blond-haired_woman =1f471.200d.2640.fe0f boy =1f466 breast-feeding =1f931",
  "bride_with_veil =1f470 call_me_hand =1f919 child =1f9d2 clapping_hands =1f44f",
  "construction_worker =1f477 crossed_fingers =1f91e detective =1f575 ear =1f442 elf =1f9dd",
  "fairy =1f9da flexed_biceps =1f4aa folded_hands =1f64f girl =1f467 guard =1f482",
  "hand_with_fingers_splayed =1f590 horse_racing =1f3c7 index_pointing_up =261d",
  "left-facing_fist =1f91b love-you_gesture =1f91f mage =1f9d9 man =1f468",
  "man_artist =1f468.200d.1f3a8 man_astronaut =1f468.200d.1f680 man_biking =1f6b4.200d.2642.fe0f",
  "man_bouncing_ball =26f9.fe0f.200d.2642.fe0f man_bowing =1f647.200d.2642.fe0f",
  "man_cartwheeling =1f938.200d.2642.fe0f man_climbing =1f9d7.200d.2642.fe0f",
  "man_construction_worker =1f477.200d.2642.fe0f man_cook =1f468.200d.1f373 man_dancing =1f57a",
  "man_detective =1f575.fe0f.200d.2642.fe0f man_elf =1f9dd.200d.2642.fe0f",
  "man_facepalming =1f926.200d.2642.fe0f man_factory_worker =1f468.200d.1f3ed",
  "man_fairy =1f9da.200d.2642.fe0f man_farmer =1f468.200d.1f33e",
  "man_firefighter =1f468.200d.1f692 man_frowning =1f64d.200d.2642.fe0f",
  "man_gesturing_no =1f645.200d.2642.fe0f man_gesturing_ok =1f646.200d.2642.fe0f",
  "man_getting_haircut =1f487.200d.2642.fe0f man_getting_massage =1f486.200d.2642.fe0f",
  "man_golfing =1f3cc.fe0f.200d.2642.fe0f man_guard =1f482.200d.2642.fe0f",
  "man_health_worker =1f468.200d.2695.fe0f man_in_lotus_position =1f9d8.200d.2642.fe0f",
  "man_in_steamy_room =1f9d6.200d.2642.fe0f man_in_suit_levitating =1f574 man_in_tuxedo =1f935",
  "man_judge =1f468.200d.2696.fe0f man_juggling =1f939.200d.2642.fe0f",
  "man_lifting_weights =1f3cb.fe0f.200d.2642.fe0f man_mage =1f9d9.200d.2642.fe0f",
  "man_mechanic =1f468.200d.1f527 man_mountain_biking =1f6b5.200d.2642.fe0f",
  "man_office_worker =1f468.200d.1f4bc man_pilot =1f468.200d.2708.fe0f",
  "man_playing_handball =1f93e.200d.2642.fe0f man_playing_water_polo =1f93d.200d.2642.fe0f",
  "man_police_officer =1f46e.200d.2642.fe0f man_pouting =1f64e.200d.2642.fe0f",
  "man_raising_hand =1f64b.200d.2642.fe0f man_rowing_boat =1f6a3.200d.2642.fe0f",
  "man_running =1f3c3.200d.2642.fe0f man_scientist =1f468.200d.1f52c",
  "man_shrugging =1f937.200d.2642.fe0f man_singer =1f468.200d.1f3a4",
  "man_student =1f468.200d.1f393 man_surfing =1f3c4.200d.2642.fe0f",
  "man_swimming =1f3ca.200d.2642.fe0f man_teacher =1f468.200d.1f3eb",
  "man_technologist =1f468.200d.1f4bb man_tipping_hand =1f481.200d.2642.fe0f",
  "man_vampire =1f9db.200d.2642.fe0f man_walking =1f6b6.200d.2642.fe0f",
  "man_wearing_turban =1f473.200d.2642.fe0f man_with_chinese_cap =1f472",
  "mermaid =1f9dc.200d.2640.fe0f merman =1f9dc.200d.2642.fe0f merperson =1f9dc",
  "middle_finger =1f595 mrs._claus =1f936 nail_polish =1f485 nose =1f443 ok_hand =1f44c",
  "old_man =1f474 old_woman =1f475 older_adult =1f9d3 oncoming_fist =1f44a open_hands =1f450",
  "palms_up_together =1f932 person_biking =1f6b4 person_bouncing_ball =26f9 person_bowing =1f647",
  "person_cartwheeling =1f938 person_climbing =1f9d7 person_facepalming =1f926",
  "person_frowning =1f64d person_gesturing_no =1f645 person_gesturing_ok =1f646",
  "person_getting_haircut =1f487 person_getting_massage =1f486 person_golfing =1f3cc",
  "person_in_bed =1f6cc person_in_lotus_position =1f9d8 person_in_steamy_room =1f9d6",
  "person_juggling =1f939 person_lifting_weights =1f3cb person_mountain_biking =1f6b5",
  "person_playing_handball =1f93e person_playing_water_polo =1f93d person_pouting =1f64e",
  "person_raising_hand =1f64b person_rowing_boat =1f6a3 person_running =1f3c3",
  "person_shrugging =1f937 person_surfing =1f3c4 person_swimming =1f3ca",
  "person_taking_bath =1f6c0 person_tipping_hand =1f481 person_walking =1f6b6",
  "person_wearing_turban =1f473 police_officer =1f46e pregnant_woman =1f930 prince =1f934",
  "princess =1f478 raised_back_of_hand =1f91a raised_fist =270a raised_hand =270b",
  "raising_hands =1f64c right-facing_fist =1f91c santa_claus =1f385 selfie =1f933",
  "sign_of_the_horns =1f918 snowboarder =1f3c2 thumbs_down =1f44e thumbs_up =1f44d",
  "vampire =1f9db victory_hand =270c vulcan_salute =1f596 waving_hand =1f44b woman =1f469",
  "woman_artist =1f469.200d.1f3a8 woman_astronaut =1f469.200d.1f680",
  "woman_biking =1f6b4.200d.2640.fe0f woman_bouncing_ball =26f9.fe0f.200d.2640.fe0f",
  "woman_bowing =1f647.200d.2640.fe0f woman_cartwheeling =1f938.200d.2640.fe0f",
  "woman_climbing =1f9d7.200d.2640.fe0f woman_construction_worker =1f477.200d.2640.fe0f",
  "woman_cook =1f469.200d.1f373 woman_dancing =1f483 woman_detective =1f575.fe0f.200d.2640.fe0f",
  "woman_elf =1f9dd.200d.2640.fe0f woman_facepalming =1f926.200d.2640.fe0f",
  "woman_factory_worker =1f469.200d.1f3ed woman_fairy =1f9da.200d.2640.fe0f",
  "woman_farmer =1f469.200d.1f33e woman_firefighter =1f469.200d.1f692",
  "woman_frowning =1f64d.200d.2640.fe0f woman_gesturing_no =1f645.200d.2640.fe0f",
  "woman_gesturing_ok =1f646.200d.2640.fe0f woman_getting_haircut =1f487.200d.2640.fe0f",
  "woman_getting_massage =1f486.200d.2640.fe0f woman_golfing =1f3cc.fe0f.200d.2640.fe0f",
  "woman_guard =1f482.200d.2640.fe0f woman_health_worker =1f469.200d.2695.fe0f",
  "woman_in_lotus_position =1f9d8.200d.2640.fe0f woman_in_steamy_room =1f9d6.200d.2640.fe0f",
  "woman_judge =1f469.200d.2696.fe0f woman_juggling =1f939.200d.2640.fe0f",
  "woman_lifting_weights =1f3cb.fe0f.200d.2640.fe0f woman_mage =1f9d9.200d.2640.fe0f",
  "woman_mechanic =1f469.200d.1f527 woman_mountain_biking =1f6b5.200d.2640.fe0f",
  "woman_office_worker =1f469.200d.1f4bc woman_pilot =1f469.200d.2708.fe0f",
  "woman_playing_handball =1f93e.200d.2640.fe0f woman_playing_water_polo =1f93d.200d.2640.fe0f",
  "woman_police_officer =1f46e.200d.2640.fe0f woman_pouting =1f64e.200d.2640.fe0f",
  "woman_raising_hand =1f64b.200d.2640.fe0f woman_rowing_boat =1f6a3.200d.2640.fe0f",
  "woman_running =1f3c3.200d.2640.fe0f woman_scientist =1f469.200d.1f52c",
  "woman_shrugging =1f937.200d.2640.fe0f woman_singer =1f469.200d.1f3a4",
  "woman_student =1f469.200d.1f393 woman_surfing =1f3c4.200d.2640.fe0f",
  "woman_swimming =1f3ca.200d.2640.fe0f woman_teacher =1f469.200d.1f3eb",
  "woman_technologist =1f469.200d.1f4bb woman_tipping_hand =1f481.200d.2640.fe0f",
  "woman_vampire =1f9db.200d.2640.fe0f woman_walking =1f6b6.200d.2640.fe0f",
  "woman_wearing_turban =1f473.200d.2640.fe0f woman_with_headscarf =1f9d5 writing_hand =270d"]

/-- Flags that go by the name of the country, alone and after `flag_for_`. -/
def countries : List String := [
  "afghanistan =1f1e6.1f1eb albania =1f1e6.1f1f1 algeria =1f1e9.1f1ff",
  "american_samoa =1f1e6.1f1f8 andorra =1f1e6.1f1e9 angola =1f1e6.1f1f4 anguilla =1f1e6.1f1ee",
  "antarctica =1f1e6.1f1f6 antigua_&_barbuda =1f1e6.1f1ec argentina =1f1e6.1f1f7",
  "armenia =1f1e6.1f1f2 aruba =1f1e6.1f1fc ascension_island =1f1e6.1f1e8 australia =1f1e6.1f1fa",
  "austria =1f1e6.1f1f9 azerbaijan =1f1e6.1f1ff bahamas =1f1e7.1f1f8 bahrain =1f1e7.1f1ed",
  "bangladesh =1f1e7.1f1e9 barbados =1f1e7.1f1e7 belarus =1f1e7.1f1fe belgium =1f1e7.1f1ea",
  "belize =1f1e7.1f1ff benin =1f1e7.1f1ef bermuda =1f1e7.1f1f2 bhutan =1f1e7.1f1f9",
  "bolivia =1f1e7.1f1f4 bosnia_&_herzegovina =1f1e7.1f1e6 botswana =1f1e7.1f1fc",
  "bouvet_island =1f1e7.1f1fb brazil =1f1e7.1f1f7 british_indian_ocean_territory =1f1ee.1f1f4",
  "british_virgin_islands =1f1fb.1f1ec brunei =1f1e7.1f1f3 bulgaria =1f1e7.1f1ec",
  "burkina_faso =1f1e7.1f1eb burundi =1f1e7.1f1ee cambodia =1f1f0.1f1ed cameroon =1f1e8.1f1f2",
  "canada =1f1e8.1f1e6 canary_islands =1f1ee.1f1e8 cape_verde =1f1e8.1f1fb",
  "caribbean_netherlands =1f1e7.1f1f6 cayman_islands =1f1f0.1f1fe",
  "central_african_republic =1f1e8.1f1eb ceuta_&_melilla =1f1ea.1f1e6 chad =1f1f9.1f1e9",
  "chile =1f1e8.1f1f1 china =1f1e8.1f1f3 christmas_island =1f1e8.1f1fd",
  "clipperton_island =1f1e8.1f1f5 colombia =1f1e8.1f1f4 comoros =1f1f0.1f1f2",
  "cook_islands =1f1e8.1f1f0 costa_rica =1f1e8.1f1f7 croatia =1f1ed.1f1f7 cuba =1f1e8.1f1fa",
  "curaçao =1f1e8.1f1fc cyprus =1f1e8.1f1fe côte_d’ivoire =1f1e8.1f1ee denmark =1f1e9.1f1f0",
  "diego_garcia =1f1e9.1f1ec djibouti =1f1e9.1f1ef dominica =1f1e9.1f1f2",
  "dominican_republic =1f1e9.1f1f4 ecuador =1f1ea.1f1e8 egypt =1f1ea.1f1ec",
  "el_salvador =1f1f8.1f1fb equatorial_guinea =1f1ec.1f1f6 eritrea =1f1ea.1f1f7",
  "estonia =1f1ea.1f1ea ethiopia =1f1ea.1f1f9 european_union =1f1ea.1f1fa",
  "falkland_islands =1f1eb.1f1f0 faroe_islands =1f1eb.1f1f4 fiji =1f1eb.1f1ef",
  "finland =1f1eb.1f1ee france =1f1eb.1f1f7 french_guiana =1f1ec.1f1eb",
  "french_polynesia =1f1f5.1f1eb french_southern_territories =1f1f9.1f1eb gabon =1f1ec.1f1e6",
  "gambia =1f1ec.1f1f2 georgia =1f1ec.1f1ea germany =1f1e9.1f1ea ghana =1f1ec.1f1ed",
  "gibraltar =1f1ec.1f1ee greece =1f1ec.1f1f7 greenland =1f1ec.1f1f1 grenada =1f1ec.1f1e9",
  "guadeloupe =1f1ec.1f1f5 guam =1f1ec.1f1fa guatemala =1f1ec.1f1f9 guernsey =1f1ec.1f1ec",
  "guinea =1f1ec.1f1f3 guyana =1f1ec.1f1fe haiti =1f1ed.1f1f9",
  "heard_&_mcdonald_islands =1f1ed.1f1f2 honduras =1f1ed.1f1f3 hungary =1f1ed.1f1fa",
  "iceland =1f1ee.1f1f8 india =1f1ee.1f1f3 indonesia =1f1ee.1f1e9 iran =1f1ee.1f1f7",
  "iraq =1f1ee.1f1f6 ireland =1f1ee.1f1ea isle_of_man =1f1ee.1f1f2 israel =1f1ee.1f1f1",
  "italy =1f1ee.1f1f9 jamaica =1f1ef.1f1f2 jersey =1f1ef.1f1ea jordan =1f1ef.1f1f4",
  "kazakhstan =1f1f0.1f1ff kenya =1f1f0.1f1ea kiribati =1f1f0.1f1ee kosovo =1f1fd.1f1f0",
  "kuwait =1f1f0.1f1fc kyrgyzstan =1f1f0.1f1ec laos =1f1f1.1f1e6 latvia =1f1f1.1f1fb",
  "lebanon =1f1f1.1f1e7 lesotho =1f1f1.1f1f8 liberia =1f1f1.1f1f7 libya =1f1f1.1f1fe",
  "liechtenstein =1f1f1.1f1ee lithuania =1f1f1.1f1f9 luxembourg =1f1f1.1f1fa",
  "macedonia =1f1f2.1f1f0 madagascar =1f1f2.1f1ec malawi =1f1f2.1f1fc malaysia =1f1f2.1f1fe",
  "maldives =1f1f2.1f1fb mali =1f1f2.1f1f1 malta =1f1f2.1f1f9 marshall_islands =1f1f2.1f1ed",
  "martinique =1f1f2.1f1f6 mauritania =1f1f2.1f1f7 mauritius =1f1f2.1f1fa mayotte =1f1fe.1f1f9",
  "mexico =1f1f2.1f1fd micronesia =1f1eb.1f1f2 moldova =1f1f2.1f1e9 monaco =1f1f2.1f1e8",
  "mongolia =1f1f2.1f1f3 montenegro =1f1f2.1f1ea montserrat =1f1f2.1f1f8 morocco =1f1f2.1f1e6",
  "mozambique =1f1f2.1f1ff namibia =1f1f3.1f1e6 nauru =1f1f3.1f1f7 nepal =1f1f3.1f1f5",
  "netherlands =1f1f3.1f1f1 new_caledonia =1f1f3.1f1e8 new_zealand =1f1f3.1f1ff",
  "nicaragua =1f1f3.1f1ee niger =1f1f3.1f1ea nigeria =1f1f3.1f1ec niue =1f1f3.1f1fa",
  "norfolk_island =1f1f3.1f1eb north_korea =1f1f0.1f1f5 northern_mariana_islands =1f1f2.1f1f5",
  "norway =1f1f3.1f1f4 oman =1f1f4.1f1f2 pakistan =1f1f5.1f1f0 palau =1f1f5.1f1fc",
  "palestinian_territories =1f1f5.1f1f8 panama =1f1f5.1f1e6 papua_new_guinea =1f1f5.1f1ec",
  "paraguay =1f1f5.1f1fe peru =1f1f5.1f1ea philippines =1f1f5.1f1ed",
  "pitcairn_islands =1f1f5.1f1f3 poland =1f1f5.1f1f1 portugal =1f1f5.1f1f9",
  "puerto_rico =1f1f5.1f1f7 qatar =1f1f6.1f1e6 romania =1f1f7.1f1f4 russia =1f1f7.1f1fa",
  "rwanda =1f1f7.1f1fc réunion =1f1f7.1f1ea samoa =1f1fc.1f1f8 san_marino =1f1f8.1f1f2",
  "saudi_arabia =1f1f8.1f1e6 senegal =1f1f8.1f1f3 serbia =1f1f7.1f1f8 seychelles =1f1f8.1f1e8",
  "sierra_leone =1f1f8.1f1f1 singapore =1f1f8.1f1ec sint_maarten =1f1f8.1f1fd",
  "slovakia =1f1f8.1f1f0 slovenia =1f1f8.1f1ee solomon_islands =1f1f8.1f1e7 somalia =1f1f8.1f1f4",
  "south_africa =1f1ff.1f1e6 south_georgia_&_south_sandwich_islands =1f1ec.1f1f8",
  "south_korea =1f1f0.1f1f7 south_sudan =1f1f8.1f1f8 spain =1f1ea.1f1f8 sri_lanka =1f1f1.1f1f0",
  "st._barthélemy =1f1e7.1f1f1 st._helena =1f1f8.1f1ed st._kitts_&_nevis =1f1f0.1f1f3",
  "st._lucia =1f1f1.1f1e8 st._martin =1f1f2.1f1eb st._pierre_&_miquelon =1f1f5.1f1f2",
  "st._vincent_&_grenadines =1f1fb.1f1e8 sudan =1f1f8.1f1e9 suriname =1f1f8.1f1f7",
  "svalbard_&_jan_mayen =1f1f8.1f1ef swaziland =1f1f8.1f1ff sweden =1f1f8.1f1ea",
  "switzerland =1f1e8.1f1ed syria =1f1f8.1f1fe são_tomé_&_príncipe =1f1f8.1f1f9",
  "taiwan =1f1f9.1f1fc tajikistan =1f1f9.1f1ef tanzania =1f1f9.1f1ff thailand =1f1f9.1f1ed",
  "togo =1f1f9.1f1ec tokelau =1f1f9.1f1f0 tonga =1f1f9.1f1f4 trinidad_&_tobago =1f1f9.1f1f9",
  "tristan_da_cunha =1f1f9.1f1e6 tunisia =1f1f9.1f1f3 turkmenistan =1f1f9.1f1f2",
  "turks_&_caicos_islands =1f1f9.1f1e8 tuvalu =1f1f9.1f1fb u.s._outlying_islands =1f1fa.1f1f2",
  "u.s._virgin_islands =1f1fb.1f1ee uganda =1f1fa.1f1ec ukraine =1f1fa.1f1e6",
  "united_arab_emirates =1f1e6.1f1ea united_kingdom =1f1ec.1f1e7 united_states =1f1fa.1f1f8",
  "uruguay =1f1fa.1f1fe uzbekistan =1f1fa.1f1ff vanuatu =1f1fb.1f1fa vatican_city =1f1fb.1f1e6",
  "venezuela =1f1fb.1f1ea vietnam =1f1fb.1f1f3 wallis_&_futuna =1f1fc.1f1eb",
  "western_sahara =1f1ea.1f1ed yemen =1f1fe.1f1ea zambia =1f1ff.1f1f2 zimbabwe =1f1ff.1f1fc",
  "åland_islands =1f1e6.1f1fd"]

def plainToF : List String := [
  "+1 thumbsup =1f44d 1st_place_medal =1f947 2nd_place_medal =1f948 3rd_place_medal =1f949",
  "__1 -1 thumbsdown =1f44e a_button_(blood_type) a =1f170 ab_button_(blood_type) ab =1f18e",
  "abacus =1f9ee adhesive_bandage =1fa79 admission_tickets =1f39f aerial_tramway =1f6a1",
  "airplane =2708 airplane_arrival airplane_arriving =1f6ec airplane_departure =1f6eb",
  "alarm_clock =23f0 alembic =2697 alien =1f47d alien_monster space_invader =1f47e",
  "ambulance =1f691 american_football football =1f3c8 amphora =1f3fa anchor =2693 angel =1f47c",
  "anger_symbol anger =1f4a2 angry_face angry =1f620 angry_face_with_horns imp =1f47f",
  "anguished_face anguished =1f627 ant =1f41c antenna_bars signal_strength =1f4f6",
  "anxious_face_with_sweat cold_sweat =1f630 aquarius =2652 aries =2648 articulated_lorry =1f69b",
  "artist_palette art =1f3a8 astonished_face astonished =1f632 atm_sign atm =1f3e7",
  "atom_symbol =269b auto_rickshaw =1f6fa automobile car red_car =1f697 avocado =1f951",
  "axe =1fa93 b_button_(blood_type) b =1f171 baby_bottle =1f37c baby_chick =1f424",
  "baby_symbol =1f6bc back_arrow back =1f519 bacon =1f953 badger =1f9a1",
  "badminton badminton_racquet_and_shuttlecock =1f3f8 bagel =1f96f baggage_claim =1f6c4",
  "baguette_bread =1f956 balance_scale scales =2696 bald =1f9b2 bald_man =1f468.200d.1f9b2",
  "bald_woman =1f469.200d.1f9b2 ballet_shoes =1fa70 balloon =1f388 ballot_box_with_ballot =1f5f3",
  "ballot_box_with_check =2611 banana =1f34c banjo =1fa95 bank =1f3e6 bar_chart =1f4ca",
  "barber_pole barber =1f488 baseball =26be basket =1f9fa basketball =1f3c0 bat =1f987",
  "bath =1f6c0 bathtub =1f6c1 battery =1f50b beach_with_umbrella =1f3d6",
  "beaming_face_with_smiling_eyes grin =1f601 bear_face bear =1f43b",
  "beating_heart heartbeat =1f493 bed =1f6cf beer_mug beer =1f37a bell =1f514",
  "bell_with_slash no_bell =1f515 bellhop_bell =1f6ce bento_box bento =1f371 beverage_box =1f9c3",
  "bicycle bike =1f6b2 bicyclist =1f6b4 bikini =1f459 billed_cap =1f9e2",
  "biohazard biohazard_sign =2623 bird =1f426 birthday_cake birthday =1f382 black_circle =26ab",
  "black_flag waving_black_flag =1f3f4 black_heart =1f5a4 black_large_square =2b1b",
  "black_medium-small_square black_medium_small_square =25fe black_medium_square =25fc",
  "black_nib =2712 black_small_square =25aa black_square_button =1f532 blossom =1f33c",
  "blowfish =1f421 blue_book =1f4d8 blue_circle large_blue_circle =1f535 blue_heart =1f499",
  "blue_square =1f7e6 boar =1f417 bomb =1f4a3 bone =1f9b4 bookmark =1f516 bookmark_tabs =1f4d1",
  "books =1f4da bottle_with_popping_cork =1f37e bouquet =1f490 bow =1f647 bow_and_arrow =1f3f9",
  "bowl_with_spoon =1f963 bowling =1f3b3 boxing_glove =1f94a brain =1f9e0 bread =1f35e",
  "brick =1f9f1 bridge_at_night =1f309 briefcase =1f4bc briefs =1fa72",
  "bright_button high_brightness =1f506 broccoli =1f966 broken_heart =1f494 broom =1f9f9",
  "brown_circle =1f7e4 brown_heart =1f90e brown_square =1f7eb bug =1f41b",
  "building_construction =1f3d7 bullet_train bullettrain_front =1f685 burrito =1f32f bus =1f68c",
  "bus_stop busstop =1f68f bust_in_silhouette =1f464 busts_in_silhouette =1f465 butter =1f9c8",
  "butterfly =1f98b cactus =1f335 calendar tear-off_calendar =1f4c6 camel two-hump_camel =1f42b",
  "camera =1f4f7 camera_with_flash =1f4f8 camping =1f3d5 cancer =264b candle =1f56f candy =1f36c",
  "canned_food =1f96b canoe =1f6f6 capricorn =2651 card_file_box =1f5c3 card_index =1f4c7",
  "card_index_dividers =1f5c2 carousel_horse =1f3a0 carp_streamer flags =1f38f carrot =1f955",
  "castle european_castle =1f3f0 cat cat_face =1f431 cat2 =1f408",
  "cat_face_with_tears_of_joy joy_cat =1f639 cat_face_with_wry_smile smirk_cat =1f63c",
  "chains =26d3 chair =1fa91 chart_decreasing chart_with_downwards_trend =1f4c9",
  "chart_increasing chart_with_upwards_trend =1f4c8 chart_increasing_with_yen chart =1f4b9",
  "cheese_wedge =1f9c0 chequered_flag checkered_flag =1f3c1 cherries =1f352",
  "cherry_blossom =1f338 chess_pawn =265f chestnut =1f330 chicken =1f414",
  "children_crossing =1f6b8 chipmunk =1f43f chocolate_bar =1f36b chopsticks =1f962",
  "christmas_tree =1f384 church =26ea cigarette smoking =1f6ac cinema =1f3a6 circled_m m =24c2",
  "circus_tent =1f3aa cityscape =1f3d9 cityscape_at_dusk city_sunset =1f306 cl_button cl =1f191",
  "clamp compression =1f5dc clap =1f44f clapper_board clapper =1f3ac classical_building =1f3db",
  "clinking_beer_mugs beers =1f37b clinking_glasses =1f942 clipboard =1f4cb",
  "clockwise_vertical_arrows arrows_clockwise =1f503 closed_book =1f4d5",
  "closed_mailbox_with_lowered_flag mailbox_closed =1f4ea",
  "closed_mailbox_with_raised_flag mailbox =1f4eb closed_umbrella =1f302 cloud =2601",
  "cloud_with_lightning =1f329 cloud_with_lightning_and_rain thunder_cloud_and_rain =26c8",
  "cloud_with_rain =1f327 cloud_with_snow =1f328 clown_face =1f921 club_suit clubs =2663",
  "clutch_bag pouch =1f45d coat =1f9e5 cocktail_glass cocktail =1f378 coconut =1f965",
  "cocos_(keeling)_islands flag_for_cocos__islands =1f1e8.1f1e8 coffin =26b0 cold_face =1f976",
  "collision boom =1f4a5 comet =2604 compass =1f9ed computer_disk minidisc =1f4bd",
  "computer_mouse three_button_mouse =1f5b1 confetti_ball =1f38a",
  "confounded_face confounded =1f616 confused_face confused =1f615",
  "congo_-_brazzaville flag_for_congo____brazzaville =1f1e8.1f1ec",
  "congo_-_kinshasa flag_for_congo____kinshasa =1f1e8.1f1e9 construction =1f6a7",
  "control_knobs =1f39b convenience_store =1f3ea cooked_rice rice =1f35a cookie =1f36a",
  "cooking egg =1f373 cool_button cool =1f192 cop =1f46e copyright =a9 couch_and_lamp =1f6cb",
  "counterclockwise_arrows_button arrows_counterclockwise =1f504 couple_with_heart =1f491",
  "couple_with_heart_man_man =1f468.200d.2764.fe0f.200d.1f468",
  "couple_with_heart_woman_man =1f469.200d.2764.fe0f.200d.1f468",
  "couple_with_heart_woman_woman =1f469.200d.2764.fe0f.200d.1f469 couplekiss =1f48f",
  "cow cow_face =1f42e cow2 =1f404 cowboy_hat_face =1f920 crab =1f980",
  "crayon lower_left_crayon =1f58d credit_card =1f4b3 crescent_moon =1f319 cricket =1f997",
  "cricket_game cricket_bat_and_ball =1f3cf crocodile =1f40a croissant =1f950 cross_mark x =274c",
  "cross_mark_button negative_squared_cross_mark =274e crossed_flags =1f38c crossed_swords =2694",
  "crown =1f451 crying_cat_face =1f63f crying_face cry =1f622 crystal_ball =1f52e",
  "cucumber =1f952 cup_with_straw =1f964 cupcake =1f9c1 curling_stone =1f94c",
  "curly-haired_man =1f468.200d.1f9b1 curly-haired_woman =1f469.200d.1f9b1 curly_hair =1f9b1",
  "curly_loop =27b0 currency_exchange =1f4b1 curry_rice curry =1f35b custard =1f36e",
  "customs =1f6c3 cut_of_meat =1f969 cyclone =1f300 czechia flag_for_czech_republic =1f1e8.1f1ff",
  "dagger dagger_knife =1f5e1 dancer =1f483 dango =1f361",
  "dark_skin_tone emoji_modifier_fitzpatrick_type__6 =1f3ff dark_sunglasses =1f576",
  "dashing_away dash =1f4a8 date =1f4c5 deaf_person =1f9cf deciduous_tree =1f333 deer =1f98c",
  "delivery_truck truck =1f69a department_store =1f3ec",
  "derelict_house derelict_house_building =1f3da desert =1f3dc desert_island =1f3dd",
  "desktop_computer =1f5a5 diamond_suit diamonds =2666",
  "diamond_with_a_dot diamond_shape_with_a_dot_inside =1f4a0 dim_button low_brightness =1f505",
  "direct_hit dart =1f3af disappointed_face disappointed =1f61e diving_mask =1f93f",
  "diya_lamp =1fa94 dizzy =1f4ab dizzy_face =1f635 dna =1f9ec dog dog_face =1f436 dog2 =1f415",
  "dollar_banknote dollar =1f4b5 dolphin flipper =1f42c door =1f6aa",
  "dotted_six-pointed_star six_pointed_star =1f52f double_curly_loop loop =27bf",
  "double_exclamation_mark bangbang =203c doughnut =1f369 dove dove_of_peace =1f54a",
  "down-left_arrow arrow_lower_left =2199 down-right_arrow arrow_lower_right =2198",
  "down_arrow arrow_down =2b07 downcast_face_with_sweat sweat =1f613",
  "downwards_button arrow_down_small =1f53d dragon =1f409 dragon_face =1f432 dress =1f457",
  "dromedary_camel =1f42a drooling_face =1f924 drop_of_blood =1fa78 droplet =1f4a7 drum =1f941",
  "duck =1f986 dumpling =1f95f dvd =1f4c0 e-mail e__mail =1f4e7 eagle =1f985",
  "ear_of_corn corn =1f33d ear_with_hearing_aid =1f9bb eggplant =1f346",
  "eight-pointed_star eight_pointed_black_star =2734",
  "eight-spoked_asterisk eight_spoked_asterisk =2733 eight-thirty clock830 =1f563",
  "eight_o’clock clock8 =1f557 eject_button eject_symbol =23cf electric_plug =1f50c",
  "elephant =1f418 eleven-thirty clock1130 =1f566 eleven_o’clock clock11 =1f55a",
  "end_arrow end =1f51a england =1f3f4.e0067.e0062.e0065.e006e.e0067.e007f envelope email =2709",
  "envelope_with_arrow =1f4e9 euro_banknote euro =1f4b6 european_post_office =1f3e4",
  "evergreen_tree =1f332 ewe sheep =1f411",
  "exclamation_mark exclamation heavy_exclamation_mark =2757",
  "exclamation_question_mark interrobang =2049 exploding_head =1f92f",
  "expressionless_face expressionless =1f611 eye =1f441",
  "eye_in_speech_bubble =1f441.fe0f.200d.1f5e8.fe0f eyes =1f440",
  "face_blowing_a_kiss kissing_heart =1f618 face_savoring_food yum =1f60b",
  "face_screaming_in_fear scream =1f631 face_vomiting =1f92e face_with_hand_over_mouth =1f92d",
  "face_with_head-bandage face_with_head__bandage =1f915 face_with_medical_mask mask =1f637",
  "face_with_monocle =1f9d0 face_with_open_mouth open_mouth =1f62e",
  "face_with_raised_eyebrow =1f928 face_with_rolling_eyes =1f644",
  "face_with_steam_from_nose triumph =1f624 face_with_symbols_on_mouth =1f92c",
  "face_with_tears_of_joy joy =1f602 face_with_thermometer =1f912",
  "face_with_tongue stuck_out_tongue =1f61b face_without_mouth no_mouth =1f636",
  "facepunch punch =1f44a factory =1f3ed falafel =1f9c6 fallen_leaf =1f342 family =1f46a",
  "family_man_boy =1f468.200d.1f466 family_man_boy_boy =1f468.200d.1f466.200d.1f466",
  "family_man_girl =1f468.200d.1f467 family_man_girl_boy =1f468.200d.1f467.200d.1f466",
  "family_man_girl_girl =1f468.200d.1f467.200d.1f467",
  "family_man_man_boy =1f468.200d.1f468.200d.1f466",
  "family_man_man_boy_boy =1f468.200d.1f468.200d.1f466.200d.1f466",
  "family_man_man_girl =1f468.200d.1f468.200d.1f467",
  "family_man_man_girl_boy =1f468.200d.1f468.200d.1f467.200d.1f466",
  "family_man_man_girl_girl =1f468.200d.1f468.200d.1f467.200d.1f467",
  "family_man_woman_boy =1f468.200d.1f469.200d.1f466",
  "family_man_woman_boy_boy =1f468.200d.1f469.200d.1f466.200d.1f466",
  "family_man_woman_girl =1f468.200d.1f469.200d.1f467",
  "family_man_woman_girl_boy =1f468.200d.1f469.200d.1f467.200d.1f466",
  "family_man_woman_girl_girl =1f468.200d.1f469.200d.1f467.200d.1f467",
  "family_woman_boy =1f469.200d.1f466 family_woman_boy_boy =1f469.200d.1f466.200d.1f466",
  "family_woman_girl =1f469.200d.1f467 family_woman_girl_boy =1f469.200d.1f467.200d.1f466",
  "family_woman_girl_girl =1f469.200d.1f467.200d.1f467",
  "family_woman_woman_boy =1f469.200d.1f469.200d.1f466",
  "family_woman_woman_boy_boy =1f469.200d.1f469.200d.1f466.200d.1f466",
  "family_woman_woman_girl =1f469.200d.1f469.200d.1f467",
  "family_woman_woman_girl_boy =1f469.200d.1f469.200d.1f467.200d.1f466",
  "family_woman_woman_girl_girl =1f469.200d.1f469.200d.1f467.200d.1f467",
  "fast-forward_button fast_forward =23e9 fast_down_button arrow_double_down =23ec",
  "fast_reverse_button rewind =23ea fast_up_button arrow_double_up =23eb fax_machine fax =1f4e0",
  "fearful_face fearful =1f628 female_sign =2640 ferris_wheel =1f3a1 ferry =26f4",
  "field_hockey field_hockey_stick_and_ball =1f3d1 file_cabinet =1f5c4 file_folder =1f4c1",
  "film_frames =1f39e film_projector =1f4fd fire =1f525 fire_engine =1f692",
  "fire_extinguisher =1f9ef firecracker =1f9e8 fireworks =1f386 first_quarter_moon =1f313",
  "first_quarter_moon_face first_quarter_moon_with_face =1f31b fish =1f41f",
  "fish_cake_with_swirl fish_cake =1f365 fishing_pole fishing_pole_and_fish =1f3a3 fist =270a",
  "five-thirty clock530 =1f560 five_o’clock clock5 =1f554 flag_for_japan =1f1ef.1f1f5",
  "flag_for_turkey =1f1f9.1f1f7 flag_in_hole golf =26f3 flamingo =1f9a9 flashlight =1f526",
  "flat_shoe =1f97f fleur-de-lis fleur__de__lis =269c floppy_disk =1f4be",
  "flower_playing_cards =1f3b4 flushed_face flushed =1f633 flying_disc =1f94f",
  "flying_saucer =1f6f8 fog =1f32b foggy =1f301 foot =1f9b6 footprints =1f463",
  "fork_and_knife =1f374 fork_and_knife_with_plate =1f37d fortune_cookie =1f960 fountain =26f2",
  "fountain_pen lower_left_fountain_pen =1f58b four-thirty clock430 =1f55f",
  "four_leaf_clover =1f340 four_o’clock clock4 =1f553 fox_face =1f98a",
  "framed_picture frame_with_picture =1f5bc free_button free =1f193 french_fries fries =1f35f",
  "fried_shrimp =1f364 frog_face frog =1f438 front-facing_baby_chick hatched_chick =1f425",
  "frowning_face white_frowning_face =2639 frowning_face_with_open_mouth frowning =1f626",
  "fuel_pump fuelpump =26fd full_moon =1f315 full_moon_face full_moon_with_face =1f31d",
  "funeral_urn =26b1 game_die =1f3b2 garlic =1f9c4 gear =2699 gem_stone gem =1f48e gemini =264a"]

def plainToM : List String := [
  "genie =1f9de ghost =1f47b giraffe =1f992 glass_of_milk =1f95b glasses eyeglasses =1f453",
  "globe_showing_americas earth_americas =1f30e globe_showing_asia-australia earth_asia =1f30f",
  "globe_showing_europe-africa earth_africa =1f30d globe_with_meridians =1f310 gloves =1f9e4",
  "glowing_star star2 =1f31f goal_net =1f945 goat =1f410 goblin japanese_goblin =1f47a",
  "goggles =1f97d golfer =1f3cc gorilla =1f98d graduation_cap mortar_board =1f393 grapes =1f347",
  "green_apple =1f34f green_book =1f4d7 green_circle =1f7e2 green_heart =1f49a",
  "green_salad =1f957 green_square =1f7e9 grimacing_face grimacing =1f62c",
  "grinning_cat_face smiley_cat =1f63a grinning_cat_face_with_smiling_eyes smile_cat =1f638",
  "grinning_face grinning =1f600 grinning_face_with_big_eyes smiley =1f603",
  "grinning_face_with_smiling_eyes smile =1f604 grinning_face_with_sweat sweat_smile =1f605",
  "grinning_squinting_face laughing satisfied =1f606 growing_heart heartpulse =1f497",
  "guardsman =1f482 guide_dog =1f9ae guinea-bissau flag_for_guinea__bissau =1f1ec.1f1fc",
  "guitar =1f3b8 haircut =1f487 hamburger =1f354 hammer =1f528 hammer_and_pick =2692",
  "hammer_and_wrench =1f6e0 hamster_face hamster =1f439 hand =270b handbag =1f45c",
  "handshake =1f91d hatching_chick =1f423 headphone headphones =1f3a7",
  "hear-no-evil_monkey hear_no_evil =1f649 heart_decoration =1f49f heart_suit hearts =2665",
  "heart_with_arrow cupid =1f498 heart_with_ribbon gift_heart =1f49d heavy_check_mark =2714",
  "heavy_division_sign =2797 heavy_dollar_sign =1f4b2",
  "heavy_heart_exclamation heavy_heart_exclamation_mark_ornament =2763",
  "heavy_large_circle o =2b55 heavy_minus_sign =2796 heavy_multiplication_x =2716",
  "heavy_plus_sign =2795 hedgehog =1f994 helicopter =1f681 helm_symbol =2388 herb =1f33f",
  "hibiscus =1f33a high-heeled_shoe high_heel =1f460 high-speed_train bullettrain_side =1f684",
  "high_voltage zap =26a1 hiking_boot =1f97e hindu_temple =1f6d5 hippopotamus =1f99b hole =1f573",
  "honey_pot =1f36f honeybee bee =1f41d hong_kong_sar_china flag_for_hong_kong =1f1ed.1f1f0",
  "horizontal_traffic_light traffic_light =1f6a5 horse horse_face =1f434 hospital =1f3e5",
  "hot_beverage coffee =2615 hot_dog =1f32d hot_face =1f975 hot_pepper =1f336",
  "hot_springs hotsprings =2668 hotel =1f3e8 hourglass_done hourglass =231b",
  "hourglass_not_done hourglass_flowing_sand =23f3 house =1f3e0 house_with_garden =1f3e1",
  "houses house_buildings =1f3d8 hugging_face =1f917 hundred_points 100 =1f4af",
  "hushed_face hushed =1f62f ice =1f9ca ice_cream =1f368",
  "ice_hockey ice_hockey_stick_and_puck =1f3d2 ice_skate =26f8 id_button id =1f194",
  "inbox_tray =1f4e5 incoming_envelope =1f4e8 infinity =267e",
  "information information_source =2139 information_desk_person =1f481",
  "input_latin_letters abc =1f524 input_latin_lowercase abcd =1f521",
  "input_latin_uppercase capital_abcd =1f520 input_numbers 1234 =1f522",
  "input_symbols symbols =1f523 jack-o-lantern jack_o_lantern =1f383 japan map_of_japan =1f5fe",
  "japanese_acceptable_button accept =1f251 japanese_application_button u7533 =1f238",
  "japanese_bargain_button ideograph_advantage =1f250 japanese_castle =1f3ef",
  "japanese_congratulations_button congratulations =3297 japanese_discount_button u5272 =1f239",
  "japanese_dolls dolls =1f38e japanese_free_of_charge_button u7121 =1f21a",
  "japanese_here_button koko =1f201 japanese_monthly_amount_button u6708 =1f237",
  "japanese_no_vacancy_button u6e80 =1f235 japanese_not_free_of_charge_button u6709 =1f236",
  "japanese_open_for_business_button u55b6 =1f23a japanese_passing_grade_button u5408 =1f234",
  "japanese_post_office post_office =1f3e3 japanese_prohibited_button u7981 =1f232",
  "japanese_reserved_button u6307 =1f22f japanese_secret_button secret =3299",
  "japanese_service_charge_button sa =1f202 japanese_symbol_for_beginner beginner =1f530",
  "japanese_vacancy_button u7a7a =1f233 jeans =1f456 jigsaw =1f9e9 joker black_joker =1f0cf",
  "joystick =1f579 kaaba =1f54b kangaroo =1f998 key =1f511 keyboard =2328 keycap_# =23.fe0f.20e3",
  "keycap_* =2a.fe0f.20e3 keycap_0 zero =30.fe0f.20e3 keycap_1 one =31.fe0f.20e3",
  "keycap_10 ten =1f51f keycap_2 two =32.fe0f.20e3 keycap_3 three =33.fe0f.20e3",
  "keycap_4 four =34.fe0f.20e3 keycap_5 five =35.fe0f.20e3 keycap_6 six =36.fe0f.20e3",
  "keycap_7 seven =37.fe0f.20e3 keycap_8 eight =38.fe0f.20e3 keycap_9 nine =39.fe0f.20e3",
  "keycap_asterisk =2a.20e3 keycap_digit_eight =38.20e3 keycap_digit_five =35.20e3",
  "keycap_digit_four =34.20e3 keycap_digit_nine =39.20e3 keycap_digit_one =31.20e3",
  "keycap_digit_seven =37.20e3 keycap_digit_six =36.20e3 keycap_digit_three =33.20e3",
  "keycap_digit_two =32.20e3 keycap_digit_zero =30.20e3 keycap_number_sign =23.20e3",
  "kick_scooter =1f6f4 kimono =1f458 kiss kiss_mark =1f48b",
  "kiss_man_man =1f468.200d.2764.fe0f.200d.1f48b.200d.1f468",
  "kiss_woman_man =1f469.200d.2764.fe0f.200d.1f48b.200d.1f468",
  "kiss_woman_woman =1f469.200d.2764.fe0f.200d.1f48b.200d.1f469",
  "kissing_cat_face kissing_cat =1f63d kissing_face kissing =1f617",
  "kissing_face_with_closed_eyes kissing_closed_eyes =1f61a",
  "kissing_face_with_smiling_eyes kissing_smiling_eyes =1f619 kitchen_knife hocho knife =1f52a",
  "kite =1fa81 kiwi_fruit =1f95d koala =1f428 lab_coat =1f97c label =1f3f7 lacrosse =1f94d",
  "lady_beetle beetle =1f41e laptop_computer computer =1f4bb large_blue_diamond =1f537",
  "large_orange_diamond =1f536 last_quarter_moon =1f317",
  "last_quarter_moon_face last_quarter_moon_with_face =1f31c",
  "last_track_button black_left__pointing_double_triangle_with_vertical_bar =23ee",
  "latin_cross =271d leaf_fluttering_in_wind leaves =1f343 leafy_green =1f96c ledger =1f4d2",
  "left-right_arrow left_right_arrow =2194 left_arrow arrow_left =2b05",
  "left_arrow_curving_right arrow_right_hook =21aa left_luggage =1f6c5 left_speech_bubble =1f5e8",
  "leg =1f9b5 lemon =1f34b leo =264c leopard =1f406 level_slider =1f39a libra =264e",
  "light_bulb bulb =1f4a1 light_rail =1f688",
  "light_skin_tone emoji_modifier_fitzpatrick_type__1__2 =1f3fb link =1f517",
  "linked_paperclips =1f587 lion_face =1f981 lipstick =1f484",
  "litter_in_bin_sign put_litter_in_its_place =1f6ae lizard =1f98e llama =1f999 lobster =1f99e",
  "locked lock =1f512 locked_with_key closed_lock_with_key =1f510",
  "locked_with_pen lock_with_ink_pen =1f50f locomotive steam_locomotive =1f682 lollipop =1f36d",
  "lotion_bottle =1f9f4 loudly_crying_face sob =1f62d loudspeaker =1f4e2 love_hotel =1f3e9",
  "love_letter =1f48c luggage =1f9f3 lying_face =1f925",
  "macau_sar_china flag_for_macau =1f1f2.1f1f4 magnet =1f9f2",
  "magnifying_glass_tilted_left mag =1f50d magnifying_glass_tilted_right mag_right =1f50e",
  "mahjong_red_dragon mahjong =1f004 male_sign =2642 man_and_woman_holding_hands couple =1f46b",
  "man_genie =1f9de.200d.2642.fe0f man_in_business_suit_levitating =1f574",
  "man_in_manual_wheelchair =1f468.200d.1f9bd man_in_motorized_wheelchair =1f468.200d.1f9bc",
  "man_with_gua_pi_mao =1f472 man_with_probing_cane =1f468.200d.1f9af man_with_turban =1f473",
  "man_zombie =1f9df.200d.2642.fe0f mango =1f96d mantelpiece_clock =1f570",
  "manual_wheelchair =1f9bd man’s_shoe mans_shoe shoe =1f45e maple_leaf =1f341",
  "martial_arts_uniform =1f94b massage =1f486 mate =1f9c9 meat_on_bone =1f356",
  "mechanical_arm =1f9be mechanical_leg =1f9bf medical_symbol =2695",
  "medium_dark_skin_tone emoji_modifier_fitzpatrick_type__5 =1f3fe",
  "medium_light_skin_tone emoji_modifier_fitzpatrick_type__3 =1f3fc",
  "medium_skin_tone emoji_modifier_fitzpatrick_type__4 =1f3fd megaphone mega =1f4e3 melon =1f348",
  "memo pencil =1f4dd men_with_bunny_ears =1f46f.200d.2642.fe0f",
  "men_wrestling =1f93c.200d.2642.fe0f menorah menorah_with_nine_branches =1f54e",
  "men’s_room mens =1f6b9 metro =1f687 microbe =1f9a0 microphone =1f3a4 microscope =1f52c",
  "military_medal =1f396 milky_way =1f30c minibus =1f690 moai moyai =1f5ff",
  "mobile_phone iphone =1f4f1 mobile_phone_off =1f4f4 mobile_phone_with_arrow calling =1f4f2",
  "money-mouth_face money__mouth_face =1f911 money_bag moneybag =1f4b0 money_with_wings =1f4b8",
  "monkey =1f412 monkey_face =1f435 monorail =1f69d moon_cake =1f96e",
  "moon_viewing_ceremony rice_scene =1f391 mosque =1f54c mosquito =1f99f motor_boat =1f6e5",
  "motor_scooter =1f6f5 motorcycle racing_motorcycle =1f3cd motorized_wheelchair =1f9bc",
  "motorway =1f6e3 mount_fuji =1f5fb mountain =26f0 mountain_bicyclist =1f6b5",
  "mountain_cableway =1f6a0 mountain_railway =1f69e mouse mouse_face =1f42d mouse2 =1f401",
  "mouth lips =1f444 movie_camera =1f3a5 muscle =1f4aa mushroom =1f344 musical_keyboard =1f3b9",
  "musical_note =1f3b5 musical_notes notes =1f3b6 musical_score =1f3bc muted_speaker mute =1f507",
  "myanmar_(burma) flag_for_myanmar =1f1f2.1f1f2 nail_care =1f485 name_badge =1f4db"]

def plainToR : List String := [
  "national_park =1f3de nauseated_face =1f922 nazar_amulet =1f9ff necktie =1f454",
  "nerd_face =1f913 neutral_face =1f610 new_button new =1f195 new_moon =1f311",
  "new_moon_face new_moon_with_face =1f31a newspaper =1f4f0",
  "next_track_button black_right__pointing_double_triangle_with_vertical_bar =23ed",
  "ng_button ng =1f196 night_with_stars =1f303 nine-thirty clock930 =1f564",
  "nine_o’clock clock9 =1f558 no_bicycles =1f6b3 no_entry =26d4 no_good =1f645",
  "no_littering do_not_litter =1f6af no_mobile_phones =1f4f5",
  "no_one_under_eighteen underage =1f51e no_pedestrians =1f6b7 no_smoking =1f6ad",
  "non-potable_water non__potable_water =1f6b1 notebook =1f4d3",
  "notebook_with_decorative_cover =1f4d4 nut_and_bolt =1f529 o_button_(blood_type) o2 =1f17e",
  "octopus =1f419 oden =1f362 office_building office =1f3e2 ogre japanese_ogre =1f479",
  "oil_drum =1f6e2 ok_button ok =1f197 ok_woman =1f646 old_key =1f5dd older_man =1f474",
  "older_woman =1f475 om om_symbol =1f549 on!_arrow on =1f51b oncoming_automobile =1f698",
  "oncoming_bus =1f68d oncoming_police_car =1f694 oncoming_taxi =1f696 one-piece_swimsuit =1fa71",
  "one-thirty clock130 =1f55c one_o’clock clock1 =1f550 onion =1f9c5 open_book book =1f4d6",
  "open_file_folder =1f4c2 open_mailbox_with_lowered_flag mailbox_with_no_mail =1f4ed",
  "open_mailbox_with_raised_flag mailbox_with_mail =1f4ec ophiuchus =26ce optical_disk cd =1f4bf",
  "orange_book =1f4d9 orange_circle =1f7e0 orange_heart =1f9e1 orange_square =1f7e7",
  "orangutan =1f9a7 orthodox_cross =2626 otter =1f9a6 outbox_tray =1f4e4 owl =1f989 ox =1f402",
  "oyster =1f9aa p_button parking =1f17f package =1f4e6 page_facing_up =1f4c4",
  "page_with_curl =1f4c3 pager =1f4df paintbrush lower_left_paintbrush =1f58c palm_tree =1f334",
  "pancakes =1f95e panda_face =1f43c paperclip =1f4ce parrot =1f99c part_alternation_mark =303d",
  "party_popper tada =1f389 partying_face =1f973 passenger_ship =1f6f3 passport_control =1f6c2",
  "pause_button double_vertical_bar =23f8 paw_prints feet =1f43e peace_symbol =262e peach =1f351",
  "peacock =1f99a peanuts =1f95c pear =1f350 pen lower_left_ballpoint_pen =1f58a pencil2 =270f",
  "penguin =1f427 pensive_face pensive =1f614 people_holding_hands =1f9d1.200d.1f91d.200d.1f9d1",
  "people_with_bunny_ears dancers =1f46f people_wrestling =1f93c performing_arts =1f3ad",
  "persevering_face persevere =1f623 person_fencing =1f93a person_kneeling =1f9ce",
  "person_standing =1f9cd person_with_ball =26f9 person_with_blond_hair =1f471",
  "person_with_pouting_face =1f64e petri_dish =1f9eb pick =26cf pie =1f967 pig pig_face =1f437",
  "pig2 =1f416 pig_nose =1f43d pile_of_poo hankey poop shit =1f4a9 pill =1f48a",
  "pinching_hand =1f90f pine_decoration bamboo =1f38d pineapple =1f34d",
  "ping_pong table_tennis_paddle_and_ball =1f3d3 pirate_flag =1f3f4.200d.2620.fe0f pisces =2653",
  "pistol gun =1f52b pizza =1f355 place_of_worship =1f6d0 play_button arrow_forward =25b6",
  "play_or_pause_button black_right__pointing_triangle_with_double_vertical_bar =23ef",
  "pleading_face =1f97a point_down =1f447 point_left =1f448 point_right =1f449 point_up =261d",
  "point_up_2 =1f446 police_car =1f693 police_car_light rotating_light =1f6a8 poodle =1f429",
  "pool_8_ball 8ball =1f3b1 popcorn =1f37f postal_horn =1f4ef postbox =1f4ee",
  "pot_of_food stew =1f372 potable_water =1f6b0 potato =1f954 poultry_leg =1f357",
  "pound_banknote pound =1f4b7 pouting_cat_face pouting_cat =1f63e pouting_face rage =1f621",
  "pray =1f64f prayer_beads =1f4ff pretzel =1f968 printer =1f5a8 probing_cane =1f9af",
  "prohibited no_entry_sign =1f6ab purple_circle =1f7e3 purple_heart =1f49c purple_square =1f7ea",
  "purse =1f45b pushpin =1f4cc question_mark question =2753 rabbit rabbit_face =1f430",
  "rabbit2 =1f407 raccoon =1f99d racehorse =1f40e racing_car =1f3ce radio =1f4fb",
  "radio_button =1f518 radioactive radioactive_sign =2622 railway_car =1f683",
  "railway_track =1f6e4 rainbow =1f308 rainbow_flag =1f3f3.fe0f.200d.1f308",
  "raised_hand_with_fingers_splayed =1f590",
  "raised_hand_with_part_between_middle_and_ring_fingers =1f596 raised_hands =1f64c",
  "raising_hand =1f64b ram =1f40f rat =1f400 razor =1fa92 receipt =1f9fe",
  "record_button black_circle_for_record =23fa recycling_symbol recycle =267b",
  "red-haired_man =1f468.200d.1f9b0 red-haired_woman =1f469.200d.1f9b0 red_apple apple =1f34e",
  "red_circle =1f534 red_envelope =1f9e7 red_hair =1f9b0 red_heart heart =2764",
  "red_paper_lantern izakaya_lantern lantern =1f3ee red_square =1f7e5",
  "red_triangle_pointed_down small_red_triangle_down =1f53b",
  "red_triangle_pointed_up small_red_triangle =1f53a",
  "regional_indicator_symbol_letter_a regional_indicator_a =1f1e6",
  "regional_indicator_symbol_letter_b regional_indicator_b =1f1e7",
  "regional_indicator_symbol_letter_c regional_indicator_c =1f1e8",
  "regional_indicator_symbol_letter_d regional_indicator_d =1f1e9",
  "regional_indicator_symbol_letter_e regional_indicator_e =1f1ea",
  "regional_indicator_symbol_letter_f regional_indicator_f =1f1eb",
  "regional_indicator_symbol_letter_g regional_indicator_g =1f1ec",
  "regional_indicator_symbol_letter_h regional_indicator_h =1f1ed",
  "regional_indicator_symbol_letter_i regional_indicator_i =1f1ee",
  "regional_indicator_symbol_letter_j regional_indicator_j =1f1ef",
  "regional_indicator_symbol_letter_k regional_indicator_k =1f1f0",
  "regional_indicator_symbol_letter_l regional_indicator_l =1f1f1",
  "regional_indicator_symbol_letter_m regional_indicator_m =1f1f2",
  "regional_indicator_symbol_letter_n regional_indicator_n =1f1f3",
  "regional_indicator_symbol_letter_o regional_indicator_o =1f1f4",
  "regional_indicator_symbol_letter_p regional_indicator_p =1f1f5",
  "regional_indicator_symbol_letter_q regional_indicator_q =1f1f6",
  "regional_indicator_symbol_letter_r regional_indicator_r =1f1f7",
  "regional_indicator_symbol_letter_s regional_indicator_s =1f1f8",
  "regional_indicator_symbol_letter_t regional_indicator_t =1f1f9",
  "regional_indicator_symbol_letter_u regional_indicator_u =1f1fa",
  "regional_indicator_symbol_letter_v regional_indicator_v =1f1fb",
  "regional_indicator_symbol_letter_w regional_indicator_w =1f1fc",
  "regional_indicator_symbol_letter_x regional_indicator_x =1f1fd",
  "regional_indicator_symbol_letter_y regional_indicator_y =1f1fe",
  "regional_indicator_symbol_letter_z regional_indicator_z =1f1ff registered =ae",
  "relieved_face relieved =1f60c reminder_ribbon =1f397 repeat_button repeat =1f501",
  "repeat_single_button repeat_one =1f502 rescue_worker’s_helmet helmet_with_white_cross =26d1",
  "restroom =1f6bb reverse_button arrow_backward =25c0",
  "reversed_hand_with_middle_finger_extended =1f595 revolving_hearts =1f49e rhinoceros =1f98f",
  "ribbon =1f380 rice_ball =1f359 rice_cracker =1f358 right_anger_bubble =1f5ef",
  "right_arrow arrow_right =27a1 right_arrow_curving_down arrow_heading_down =2935",
  "right_arrow_curving_left leftwards_arrow_with_hook =21a9",
  "right_arrow_curving_up arrow_heading_up =2934 ring =1f48d ringed_planet =1fa90",
  "roasted_sweet_potato sweet_potato =1f360 robot_face robot =1f916 rocket =1f680",
  "roll_of_paper =1f9fb rolled-up_newspaper rolled__up_newspaper =1f5de roller_coaster =1f3a2",
  "rolling_on_the_floor_laughing =1f923 rooster =1f413 rose =1f339 rosette =1f3f5",
  "round_pushpin =1f4cd rowboat =1f6a3 rugby_football =1f3c9 runner running =1f3c3",
  "running_shirt running_shirt_with_sash =1f3bd running_shoe athletic_shoe =1f45f"]

def plainToZ : List String := [
  "sad_but_relieved_face disappointed_relieved =1f625 safety_pin =1f9f7 safety_vest =1f9ba",
  "sagittarius =2650 sailboat boat =26f5 sake =1f376 salt =1f9c2 sandwich =1f96a santa =1f385",
  "sari =1f97b satellite satellite_antenna =1f4e1 sauropod =1f995 saxophone =1f3b7 scarf =1f9e3",
  "school =1f3eb school_backpack school_satchel =1f392 scissors =2702 scorpio scorpius =264f",
  "scorpion =1f982 scotland =1f3f4.e0067.e0062.e0073.e0063.e0074.e007f scroll =1f4dc seat =1f4ba",
  "see-no-evil_monkey see_no_evil =1f648 seedling =1f331 service_dog =1f415.200d.1f9ba",
  "seven-thirty clock730 =1f562 seven_o’clock clock7 =1f556 shallow_pan_of_food =1f958",
  "shamrock =2618 shark =1f988 shaved_ice =1f367 sheaf_of_rice ear_of_rice =1f33e shield =1f6e1",
  "shinto_shrine =26e9 ship =1f6a2 shooting_star stars =1f320 shopping_bags =1f6cd",
  "shopping_cart =1f6d2 shortcake cake =1f370 shorts =1fa73 shower =1f6bf shrimp =1f990",
  "shuffle_tracks_button twisted_rightwards_arrows =1f500 shushing_face =1f92b",
  "six-thirty clock630 =1f561 six_o’clock clock6 =1f555 skateboard =1f6f9 skier =26f7",
  "skis ski =1f3bf skull =1f480 skull_and_crossbones =2620 skunk =1f9a8 sled =1f6f7",
  "sleeping_accommodation =1f6cc sleeping_face sleeping =1f634 sleepy_face sleepy =1f62a",
  "sleuth_or_spy =1f575 slightly_frowning_face =1f641 slightly_smiling_face =1f642",
  "slot_machine =1f3b0 sloth =1f9a5 small_airplane =1f6e9 small_blue_diamond =1f539",
  "small_orange_diamond =1f538 smiling_cat_face_with_heart-eyes heart_eyes_cat =1f63b",
  "smiling_face relaxed =263a smiling_face_with_3_hearts =1f970",
  "smiling_face_with_halo innocent =1f607 smiling_face_with_heart-eyes heart_eyes =1f60d",
  "smiling_face_with_horns smiling_imp =1f608 smiling_face_with_smiling_eyes blush =1f60a",
  "smiling_face_with_sunglasses sunglasses =1f60e smirking_face smirk =1f60f snail =1f40c",
  "snake =1f40d sneezing_face =1f927 snow-capped_mountain snow_capped_mountain =1f3d4",
  "snowflake =2744 snowman =2603 snowman_without_snow =26c4 soap =1f9fc soccer_ball soccer =26bd",
  "socks =1f9e6 soft_ice_cream icecream =1f366 softball =1f94e soon_arrow soon =1f51c",
  "sos_button sos =1f198 spade_suit spades =2660 spaghetti =1f35d sparkle =2747 sparkler =1f387",
  "sparkles =2728 sparkling_heart =1f496 speak-no-evil_monkey speak_no_evil =1f64a",
  "speaker_high_volume loud_sound =1f50a speaker_low_volume speaker =1f508",
  "speaker_medium_volume sound =1f509 speaking_head speaking_head_in_silhouette =1f5e3",
  "speech_balloon =1f4ac speedboat =1f6a4 spider =1f577 spider_web =1f578",
  "spiral_calendar spiral_calendar_pad =1f5d3 spiral_notepad spiral_note_pad =1f5d2",
  "spiral_shell shell =1f41a sponge =1f9fd spoon =1f944 sport_utility_vehicle blue_car =1f699",
  "sports_medal =1f3c5 spouting_whale whale =1f433 squid =1f991",
  "squinting_face_with_tongue stuck_out_tongue_closed_eyes =1f61d stadium =1f3df",
  "star-struck =1f929 star_and_crescent =262a star_of_david =2721 station =1f689",
  "statue_of_liberty =1f5fd steaming_bowl ramen =1f35c stethoscope =1fa7a",
  "stop_button black_square_for_stop =23f9 stop_sign =1f6d1 stopwatch =23f1",
  "straight_ruler =1f4cf strawberry =1f353 studio_microphone =1f399 stuffed_flatbread =1f959",
  "sun sunny =2600 sun_behind_cloud partly_sunny =26c5",
  "sun_behind_large_cloud white_sun_behind_cloud =1f325",
  "sun_behind_rain_cloud white_sun_behind_cloud_with_rain =1f326",
  "sun_behind_small_cloud white_sun_with_small_cloud =1f324 sun_with_face =1f31e",
  "sunflower =1f33b sunrise =1f305 sunrise_over_mountains =1f304 sunset city_sunrise =1f307",
  "superhero =1f9b8 supervillain =1f9b9 surfer =1f3c4 sushi =1f363 suspension_railway =1f69f",
  "swan =1f9a2 sweat_droplets sweat_drops =1f4a6 swimmer =1f3ca synagogue =1f54d syringe =1f489",
  "t-rex =1f996 t-shirt shirt tshirt =1f455 taco =1f32e takeout_box =1f961 tanabata_tree =1f38b",
  "tangerine =1f34a taurus =2649 taxi =1f695 teacup_without_handle tea =1f375 teddy_bear =1f9f8",
  "telephone phone =260e telephone_receiver =1f4de telescope =1f52d television tv =1f4fa",
  "ten-thirty clock1030 =1f565 ten_o’clock clock10 =1f559 tennis =1f3be tent =26fa",
  "test_tube =1f9ea thermometer =1f321 thinking_face =1f914 thought_balloon =1f4ad thread =1f9f5",
  "three-thirty clock330 =1f55e three_o’clock clock3 =1f552 ticket =1f3ab",
  "tiger tiger_face =1f42f tiger2 =1f405 timer_clock =23f2",
  "timor-leste flag_for_timor__leste =1f1f9.1f1f1 tired_face =1f62b toilet =1f6bd",
  "tokyo_tower =1f5fc tomato =1f345 tongue =1f445 toolbox =1f9f0 tooth =1f9b7",
  "top_arrow top =1f51d top_hat tophat =1f3a9 tornado cloud_with_tornado =1f32a trackball =1f5b2",
  "tractor =1f69c trade_mark tm =2122 train tram_car =1f68b train2 =1f686 tram =1f68a",
  "triangular_flag triangular_flag_on_post =1f6a9 triangular_ruler =1f4d0",
  "trident_emblem trident =1f531 trolleybus =1f68e trophy =1f3c6 tropical_drink =1f379",
  "tropical_fish =1f420 trumpet =1f3ba tulip =1f337 tumbler_glass =1f943 turkey =1f983",
  "turtle =1f422 twelve-thirty clock1230 =1f567 twelve_o’clock clock12 =1f55b",
  "two-thirty clock230 =1f55d two_hearts =1f495 two_men_holding_hands =1f46c",
  "two_o’clock clock2 =1f551 two_women_holding_hands =1f46d umbrella =2602",
  "umbrella_on_ground =26f1 umbrella_with_rain_drops =2614 unamused_face unamused =1f612",
  "unicorn_face =1f984 united_nations =1f1fa.1f1f3 unlocked unlock =1f513 up!_button up =1f199",
  "up-down_arrow arrow_up_down =2195 up-left_arrow arrow_upper_left =2196",
  "up-right_arrow arrow_upper_right =2197 up_arrow arrow_up =2b06",
  "upside-down_face upside__down_face =1f643 upwards_button arrow_up_small =1f53c v =270c",
  "vertical_traffic_light =1f6a6 vibration_mode =1f4f3 video_camera =1f4f9 video_game =1f3ae",
  "videocassette vhs =1f4fc violin =1f3bb virgo =264d volcano =1f30b volleyball =1f3d0",
  "vs_button vs =1f19a waffle =1f9c7 wales =1f3f4.e0067.e0062.e0077.e006c.e0073.e007f",
  "walking =1f6b6 waning_crescent_moon =1f318 waning_gibbous_moon =1f316 warning =26a0",
  "wastebasket =1f5d1 watch =231a water_buffalo =1f403 water_closet wc =1f6be",
  "water_wave ocean =1f30a watermelon =1f349 wave =1f44b wavy_dash =3030",
  "waxing_crescent_moon =1f312 waxing_gibbous_moon moon =1f314 weary_cat_face scream_cat =1f640",
  "weary_face weary =1f629 wedding =1f492 weight_lifter =1f3cb whale2 =1f40b",
  "wheel_of_dharma =2638 wheelchair_symbol wheelchair =267f white-haired_man =1f468.200d.1f9b3",
  "white-haired_woman =1f469.200d.1f9b3 white_circle =26aa",
  "white_exclamation_mark grey_exclamation =2755 white_flag waving_white_flag =1f3f3",
  "white_flower =1f4ae white_hair =1f9b3 white_heart =1f90d",
  "white_heavy_check_mark white_check_mark =2705 white_large_square =2b1c",
  "white_medium-small_square white_medium_small_square =25fd white_medium_square =25fb",
  "white_medium_star star =2b50 white_question_mark grey_question =2754 white_small_square =25ab",
  "white_square_button =1f533 wilted_flower =1f940 wind_chime =1f390",
  "wind_face wind_blowing_face =1f32c wine_glass =1f377 winking_face wink =1f609",
  "winking_face_with_tongue stuck_out_tongue_winking_eye =1f61c wolf_face wolf =1f43a",
  "woman_genie =1f9de.200d.2640.fe0f woman_in_manual_wheelchair =1f469.200d.1f9bd",
  "woman_in_motorized_wheelchair =1f469.200d.1f9bc woman_with_probing_cane =1f469.200d.1f9af",
  "woman_zombie =1f9df.200d.2640.fe0f woman’s_boot boot =1f462",
  "woman’s_clothes womans_clothes =1f45a woman’s_hat womans_hat =1f452",
  "woman’s_sandal sandal =1f461 women_with_bunny_ears =1f46f.200d.2640.fe0f",
  "women_wrestling =1f93c.200d.2640.fe0f women’s_room womens =1f6ba woozy_face =1f974",
  "world_map =1f5fa worried_face worried =1f61f wrapped_gift gift =1f381 wrench =1f527",
  "yarn =1f9f6 yawning_face =1f971 yellow_circle =1f7e1 yellow_heart =1f49b yellow_square =1f7e8",
  "yen_banknote yen =1f4b4 yin_yang =262f yo-yo =1fa80 zany_face =1f92a zebra =1f993",
  "zipper-mouth_face zipper__mouth_face =1f910 zombie =1f9df zzz =1f4a4"]

def plain : List String := plainToF ++ plainToM ++ plainToR ++ plainToZ

end CodeAtlas.Text.Emoji
